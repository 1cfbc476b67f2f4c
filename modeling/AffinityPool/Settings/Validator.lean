/-
Module: AffinityPool.Settings.Validator
Purpose: What a validating library offers to those who declare models, and the models of settings.
Main exports:
  Checked, FieldName, Field, Fields, Validator, Validator.settings
-/
import AffinityPool.Settings.Basic
import AffinityPool.Settings.Issue

namespace AffinityPool.Settings

/-!
Settings are declared as four models, and a library reads values by the
declarations.  What it makes of a text, a number, a list or an object is its own
affair, so the library is a record of functions, one for each kind of
declaration in use.  What is declared is all here: the names of the fields,
which of them may be left out and what they are then, and the least lengths and
bounds.
-/

/-- The outcome of a validation: a value, or the issues found. -/
abbrev Checked (α : Type) := Except (List Issue) α

/-- The two names of a field, the one for documents and its own. -/
structure FieldName where
  inDocuments : String
  own : String
deriving Repr, DecidableEq

/-- A field of a model.  It takes its standard value when it is left out, and
must be there if it has none. -/
structure Field (V α : Type) where
  name : FieldName
  standard? : Option α
  check : V → Checked α

/-- The fields of a model in the order of their declaration. -/
inductive Fields (V : Type) : Type → Type 1 where
  | none : Fields V Unit
  | more {α β : Type} (field : Field V α) (others : Fields V β) : Fields V (α × β)

/-- A library that validates values of the type `V`. -/
structure Validator (V : Type) where
  /-- Texts, with a least number of characters. -/
  text : (least : Nat) → V → Checked String
  /-- Some words, with what each of them stands for. -/
  word : {α : Type} → List (String × α) → V → Checked α
  /-- Whole numbers, with a least one. -/
  integer : (least : Int) → V → Checked Int
  /-- Lists of something, with a least number of items. -/
  list : {α : Type} → (least : Nat) → (V → Checked α) → V → Checked (List α)
  /-- Something, or null. -/
  nullable : {α : Type} → (V → Checked α) → V → Checked (Option α)
  /-- Objects with fields.  The class is named in issues. -/
  model : {α : Type} → (className : String) → Fields V α → V → Checked α

/-! ### The models -/

/-- The commands by their words. -/
def commandWords : List (String × Command) :=
  [Command.bound, .bind, .unbind].map fun command => (command.word, command)

/-- The names of the fields. -/
def commandName : FieldName := ⟨"command", "command"⟩
def keyPathName : FieldName := ⟨"affinityKey", "affinity_key"⟩
def methodsName : FieldName := ⟨"name", "name"⟩
def ruleName : FieldName := ⟨"affinity", "affinity"⟩
def maxSizeName : FieldName := ⟨"maxSize", "max_size"⟩
def ceilingName : FieldName :=
  ⟨"maxConcurrentStreamsLowWatermark", "max_concurrent_streams_low_watermark"⟩
def boundsName : FieldName := ⟨"channelPool", "channel_pool"⟩
def entriesName : FieldName := ⟨"method", "method"⟩

namespace Validator

variable {V : Type} (validator : Validator V)

/-- The rule of a group of methods. -/
def keyRule (value : V) : Checked KeyRule :=
  (validator.model "AffinityConfig"
    (.more ⟨commandName, none, validator.word commandWords⟩
      (.more ⟨keyPathName, none, validator.text 1⟩ .none)) value).map
    fun (command, keyPath, _) => ⟨command, keyPath⟩

/-- The entry of a group of methods; there must be one. -/
def entry (value : V) : Checked MethodEntry :=
  (validator.model "MethodConfig"
    (.more ⟨methodsName, none, validator.list 1 (validator.text 0)⟩
      (.more ⟨ruleName, some none, validator.nullable validator.keyRule⟩ .none)) value).map
    fun (methods, rule, _) => ⟨methods, rule⟩

/-- The bounds of the pool. -/
def bounds (value : V) : Checked PoolBounds :=
  (validator.model "ChannelPoolConfig"
    (.more ⟨maxSizeName, some PoolBounds.standard.maxSize, validator.integer 1⟩
      (.more ⟨ceilingName, some PoolBounds.standard.ceiling, validator.integer 1⟩ .none))
    value).map
    fun (maxSize, ceiling, _) => ⟨maxSize, ceiling⟩

/-- Settings. -/
def settings (value : V) : Checked Settings :=
  (validator.model "ApiConfig"
    (.more ⟨boundsName, some PoolBounds.standard, validator.bounds⟩
      (.more ⟨entriesName, some [], validator.list 0 validator.entry⟩ .none)) value).map
    fun (bounds, entries, _) => ⟨bounds, entries⟩

end Validator

end AffinityPool.Settings
