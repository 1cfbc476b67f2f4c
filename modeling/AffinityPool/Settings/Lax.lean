/-
Module: AffinityPool.Settings.Lax
Purpose: A library that validates generously, over documents and over values that a program built.
Main exports:
  View, View.validator, View.document, View.built
-/
import AffinityPool.Message.Basic
import AffinityPool.Settings.IntegerText
import AffinityPool.Settings.Validator

namespace AffinityPool.Settings

/-!
Validation looks at every part of a value and reports all issues, in the order
in which the parts are declared and depth first.  It is generous about form:
an integer may be written as a number without a fraction, as a truth value or
as a text, and every field has a document name besides its own.  Unknown
members are ignored.

Values that a program built admit a little more than documents: any iterable
for an array, any mapping for an object, and octets for a text.  A view says
what a value counts as.
-/

/-- Fail with one issue of the value that is looked at. -/
def refuse {α : Type} (kind : IssueKind) : Checked α := .error [.here kind]

/-- Two validations side by side; issues of both are reported. -/
def both {α β : Type} (first : Checked α) (second : Checked β) : Checked (α × β) :=
  match first, second with
  | .ok a, .ok b => .ok (a, b)
  | .error issues, .ok _ => .error issues
  | .ok _, .error issues => .error issues
  | .error issues, .error more => .error (issues ++ more)

/-- A validation of a part; its issues lie one step further in. -/
def inside {α : Type} (place : Place) (checked : Checked α) : Checked α :=
  checked.mapError (List.map (Issue.within place))

/-- Validate the items of an array, from a position on. -/
def checkItems {V α : Type} (check : V → Checked α) :
    (position : Nat) → List V → Checked (List α)
  | _, [] => .ok []
  | position, item :: rest =>
      (both (inside (.item position) (check item)) (checkItems check (position + 1) rest)).map
        fun (first, others) => first :: others

/-- The integer a text writes. -/
def integerOfText (text : String) : Checked Int :=
  match IntegerText.read text with
  | .ok n => .ok n
  | .error .unreadable => refuse .unreadableInteger
  | .error .oversized => refuse .oversizedInteger

/-- The integer a double is.  Doubles beyond the signed 64-bit integers are
refused although some of them are whole. -/
def integerOfFloat (x : Binary64) : Checked Int :=
  if !x.isFinite then refuse .notFinite
  else
    match x.toInt? with
    | none => refuse .fractionalInteger
    | some n =>
        if -0x8000000000000000 < n ∧ n < 0x8000000000000000 then .ok n
        else refuse .oversizedInteger

/-! ### Fields -/

/-- The value of a field under the name it is written with.  The document name
goes first when both are written. -/
def FieldName.find? {V : Type} (name : FieldName) (member? : String → Option V) :
    Option (String × V) :=
  match member? name.inDocuments with
  | some value => some (name.inDocuments, value)
  | none => (member? name.own).map (name.own, ·)

/-- Validate a field. -/
def Field.read {V α : Type} (field : Field V α) (member? : String → Option V) : Checked α :=
  match field.name.find? member?, field.standard? with
  | some (written, value), _ => inside (.member written) (field.check value)
  | none, some standard => .ok standard
  | none, none => inside (.member field.name.inDocuments) (refuse .missing)

/-- Validate fields. -/
def Fields.read {V : Type} (member? : String → Option V) : {α : Type} → Fields V α → Checked α
  | _, .none => .ok ()
  | _, .more field others => both (field.read member?) (others.read member?)

/-! ### Views -/

/-- What values of a type count as. -/
structure View (V : Type) where
  /-- Whether the values come from a document. -/
  isParsed : Bool
  isNull : V → Bool
  /-- The text a value counts as.  `none` means that it is no text at all, and an
  empty inner option that its octets are no UTF-8. -/
  text? : V → Option (Option String)
  integer : V → Checked Int
  /-- The items of a value that counts as an array. -/
  items? : V → Option (List V)
  /-- The members of a value that counts as an object, by their names. -/
  members? : V → Option (String → Option V)

/-- The library that sees values in some way. -/
def View.validator {V : Type} (view : View V) : Validator V where
  text least value :=
    match view.text? value with
    | some (some text) => if text.length < least then refuse (.tooShort least) else .ok text
    | some none => refuse .undecodableText
    | none => refuse .notAText
  word words value :=
    match (view.text? value).join.bind fun word => words.lookup word with
    | some meaning => .ok meaning
    | none => refuse (.unknownWord (words.map (·.1)))
  integer least value :=
    match view.integer value with
    | .ok n => if n < least then refuse (.below least) else .ok n
    | .error issues => .error issues
  list least check value :=
    match view.items? value with
    | some items =>
        if items.length < least then refuse (.tooFewItems least items.length)
        else checkItems check 0 items
    | none => refuse (.notAnArray view.isParsed)
  nullable check value := if view.isNull value then .ok none else (check value).map some
  model className fields value :=
    match view.members? value with
    | some member? => fields.read member?
    | none => refuse (.notAnObject className view.isParsed)

/-- Documents as they come from a text. -/
def View.document : View Json where
  isParsed := true
  isNull
    | .null => true
    | _ => false
  text?
    | .text value => some (some value.toString)
    | _ => none
  integer
    | .int n => .ok n
    | .bool b => .ok (if b then 1 else 0)
    | .float x => integerOfFloat x
    | .text text => integerOfText text.toString
    | _ => refuse .notAnInteger
  items?
    | .array items => some items
    | _ => none
  members?
    | .object members => some fun name => Json.Members.get? members name
    | _ => none

/-- Values that a program built.  A record counts as the sequence of its fields,
each with its name. -/
def View.built : View Message where
  isParsed := false
  isNull
    | .null => true
    | _ => false
  text?
    | .text value => some (some value)
    | .bytes octets | .byteArray octets => some (String.fromUTF8? ⟨octets.toArray⟩)
    | _ => none
  integer
    | .int n => .ok n
    | .bool b => .ok (if b then 1 else 0)
    | .float x => integerOfFloat x
    | .text text => integerOfText text
    | .bytes octets =>
        match String.fromUTF8? ⟨octets.toArray⟩ with
        | some text => integerOfText text
        | none => refuse .unreadableInteger
    | _ => refuse .notAnInteger
  items?
    | .list items | .tuple items | .deque items | .set items => some items
    | .model _ fields => some (fields.map fun field => .tuple [.text field.1, field.2.2])
    | _ => none
  members?
    | .dict members | .view members => some fun name => members.lookup name
    | _ => none

end AffinityPool.Settings
