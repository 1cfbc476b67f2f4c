/-
Module: AffinityPool.Proofs.Settings.Laws
Purpose: What is asked of a library that validates documents, and that all settings it makes are
  proper.
Main exports:
  Settings.fieldOf, Settings.Field.Reads, Settings.Fields.Reads, Settings.Fields.Makes,
  Settings.Validator.Lax, Settings.Proper, Settings.Validator.Lax.proper_of_settings
-/
import AffinityPool.Settings.Validator
import Mathlib.Data.List.Forall2

namespace AffinityPool.Settings

/-!
A library keeps to two laws for each kind of declaration: what it reads from a document that has the
declared form, and what everything is like that it makes from any document at all.  Nothing is asked
about documents of another form, which it may refuse or read generously.
-/

/-! ### Fields -/

/-- The value of a field: the member with its name for documents, or else the one with its own. -/
def fieldOf (members : Json.Members) (inDocuments own : String) : Option Json :=
  (Json.Members.get? members inDocuments).or (Json.Members.get? members own)

/-- What a field is read as: what its member is read as, and the standard value if there is no such
member. -/
inductive Field.Reads {α : Type} (members : Json.Members) (field : Field Json α) : α → Prop where
  | standard {a : α} (absent : fieldOf members field.name.inDocuments field.name.own = none)
      (is : field.standard? = some a) : Reads members field a
  | written {a : α} {document : Json}
      (present : fieldOf members field.name.inDocuments field.name.own = some document)
      (reads : field.check document = .ok a) : Reads members field a

/-- What can become of a field: its standard value, and whatever passes its check. -/
inductive Field.Makes {α : Type} (field : Field Json α) : α → Prop where
  | standard {a : α} (is : field.standard? = some a) : Makes field a
  | checked {a : α} {document : Json} (made : field.check document = .ok a) : Makes field a

/-- What fields are read as, one after the other. -/
def Fields.Reads (members : Json.Members) : {α : Type} → Fields Json α → α → Prop
  | _, .none, _ => True
  | _, .more field others, made => field.Reads members made.1 ∧ others.Reads members made.2

/-- What can become of fields. -/
def Fields.Makes : {α : Type} → Fields Json α → α → Prop
  | _, .none, _ => True
  | _, .more field others, made => field.Makes made.1 ∧ others.Makes made.2

/-! ### The laws -/

/-- The laws of a library that validates documents. -/
structure Validator.Lax (validator : Validator Json) : Prop where
  /-- A text that is long enough is read as it is. -/
  text : ∀ {least : Nat} {text : String}, least ≤ text.length →
    validator.text least (.text (.ofString text)) = .ok text
  text_makes : ∀ {least : Nat} {document : Json} {text : String},
    validator.text least document = .ok text → least ≤ text.length
  /-- A word is read as what it stands for. -/
  word : ∀ {α : Type} {words : List (String × α)} {word : String} {meaning : α},
    words.lookup word = some meaning →
      validator.word words (.text (.ofString word)) = .ok meaning
  /-- A whole number is read as it is, if it is large enough. -/
  integer : ∀ {least n : Int}, least ≤ n → validator.integer least (.int n) = .ok n
  integer_makes : ∀ {least : Int} {document : Json} {n : Int},
    validator.integer least document = .ok n → least ≤ n
  /-- An array is read item by item, if it is long enough. -/
  list : ∀ {α : Type} {least : Nat} {check : Json → Checked α} {items : List Json} {made : List α},
    least ≤ made.length → List.Forall₂ (fun item a => check item = .ok a) items made →
      validator.list least check (.array items) = .ok made
  list_makes : ∀ {α : Type} {least : Nat} {check : Json → Checked α} {document : Json}
    {made : List α}, validator.list least check document = .ok made →
      least ≤ made.length ∧ ∀ a ∈ made, ∃ item, check item = .ok a
  null : ∀ {α : Type} {check : Json → Checked α}, validator.nullable check .null = .ok none
  /-- What is not null is read as if null were not allowed. -/
  nullable : ∀ {α : Type} {check : Json → Checked α} {document : Json} {a : α},
    document ≠ .null → check document = .ok a → validator.nullable check document = .ok (some a)
  nullable_makes : ∀ {α : Type} {check : Json → Checked α} {document : Json} {a : α},
    validator.nullable check document = .ok (some a) → ∃ other, check other = .ok a
  /-- An object is read field by field, and its other members are ignored. -/
  model : ∀ {α : Type} {className : String} {fields : Fields Json α} {members : Json.Members}
    {made : α}, fields.Reads members made →
      validator.model className fields (.object members) = .ok made
  model_makes : ∀ {α : Type} {className : String} {fields : Fields Json α} {document : Json}
    {made : α}, validator.model className fields document = .ok made → fields.Makes made

/-! ### Proper settings -/

/-- An entry that lists a method, and whose key path, if it has a rule, is not empty. -/
structure MethodEntry.Proper (entry : MethodEntry) : Prop where
  listed : entry.methods ≠ []
  keyed : ∀ rule, entry.rule = some rule → rule.keyPath ≠ ""

/-- Bounds of one at least. -/
structure PoolBounds.Proper (bounds : PoolBounds) : Prop where
  maxSize : 1 ≤ bounds.maxSize
  ceiling : 1 ≤ bounds.ceiling

/-- What all settings are like that a validation makes. -/
structure Proper (settings : Settings) : Prop where
  bounds : settings.bounds.Proper
  entries : ∀ entry ∈ settings.entries, entry.Proper

/-- The standard bounds would pass their own check. -/
theorem PoolBounds.proper_standard : PoolBounds.standard.Proper where
  maxSize := by decide
  ceiling := by decide

/-- Being one character long at least is not being empty. -/
theorem length_pos_iff {text : String} : 1 ≤ text.length ↔ text ≠ "" := by
  rw [Nat.one_le_iff_ne_zero, ne_eq, ne_eq, String.length_eq_zero_iff]

/-- What is made of a validation's result comes from a result. -/
theorem map_eq_ok_iff {α β : Type} {checked : Checked α} {f : α → β} {b : β} :
    checked.map f = .ok b ↔ ∃ a, checked = .ok a ∧ f a = b := by
  cases checked <;> simp [Except.map]

namespace Validator.Lax

variable {validator : Validator Json} {document : Json}

/-- The key path of a rule is not empty. -/
theorem keyPath_ne_of_keyRule (lax : validator.Lax) {rule : KeyRule}
    (made : validator.keyRule document = .ok rule) : rule.keyPath ≠ "" := by
  obtain ⟨⟨command, keyPath, _⟩, modelled, rfl⟩ := map_eq_ok_iff.mp made
  obtain ⟨-, path, -⟩ := lax.model_makes modelled
  cases path with
  | standard is => cases is
  | checked read => exact length_pos_iff.mp (lax.text_makes read)

/-- An entry lists a method, and the key path of its rule is not empty. -/
theorem proper_of_entry (lax : validator.Lax) {entry : MethodEntry}
    (made : validator.entry document = .ok entry) : entry.Proper := by
  obtain ⟨⟨methods, rule, _⟩, modelled, rfl⟩ := map_eq_ok_iff.mp made
  obtain ⟨names, ruled, -⟩ := lax.model_makes modelled
  constructor
  · cases names with
    | standard is => cases is
    | checked read => exact List.length_pos_iff.mp (lax.list_makes read).1
  · intro held same
    obtain rfl : rule = some held := same
    cases ruled with
    | standard is => cases is
    | checked read =>
        obtain ⟨other, checked⟩ := lax.nullable_makes read
        exact lax.keyPath_ne_of_keyRule checked

/-- A bound is one at least, whether it is written or not. -/
theorem one_le_of_makes (lax : validator.Lax) {name : FieldName} {standard n : Int}
    (least : 1 ≤ standard)
    (makes : Field.Makes ⟨name, some standard, validator.integer 1⟩ n) : 1 ≤ n := by
  cases makes with
  | standard is =>
      cases is
      exact least
  | checked read => exact lax.integer_makes read

/-- Bounds are proper, whichever of them are written. -/
theorem proper_of_bounds (lax : validator.Lax) {bounds : PoolBounds}
    (made : validator.bounds document = .ok bounds) : bounds.Proper := by
  obtain ⟨⟨maxSize, ceiling, _⟩, modelled, rfl⟩ := map_eq_ok_iff.mp made
  obtain ⟨size, streams, -⟩ := lax.model_makes modelled
  exact ⟨lax.one_le_of_makes PoolBounds.proper_standard.maxSize size,
    lax.one_le_of_makes PoolBounds.proper_standard.ceiling streams⟩

/-- Whatever settings a library makes of a document are proper. -/
theorem proper_of_settings (lax : validator.Lax) {settings : Settings}
    (made : validator.settings document = .ok settings) : settings.Proper := by
  obtain ⟨⟨bounds, entries, _⟩, modelled, rfl⟩ := map_eq_ok_iff.mp made
  obtain ⟨pool, listed, -⟩ := lax.model_makes modelled
  constructor
  · cases pool with
    | standard is =>
        cases is
        exact PoolBounds.proper_standard
    | checked read => exact lax.proper_of_bounds read
  · intro entry member
    cases listed with
    | standard is =>
        cases is
        cases member
    | checked read =>
        obtain ⟨item, checked⟩ := (lax.list_makes read).2 entry member
        exact lax.proper_of_entry checked

end Validator.Lax

end AffinityPool.Settings
