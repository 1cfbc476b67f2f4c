/-
Module: AffinityPool.Settings.Issue
Purpose: What can be wrong with a settings document, and where.
Main exports:
  Place, IssueKind, Issue
-/

namespace AffinityPool.Settings

/-- One step of a location inside a document. -/
inductive Place where
  | member (name : String)
  | item (position : Nat)
deriving Repr, DecidableEq

/-- What is wrong at a location.  `parsed` tells that the value comes from a
JSON text and not from values built by a program; two texts depend on it. -/
inductive IssueKind where
  | missing
  | notAnObject (className : String) (parsed : Bool)
  | notAnArray (parsed : Bool)
  | tooFewItems (least found : Nat)
  | notAText
  | undecodableText
  | tooShort (least : Nat)
  | unknownWord (words : List String)
  | notAnInteger
  | unreadableInteger
  | oversizedInteger
  | fractionalInteger
  | notFinite
  | below (least : Int)
  /-- The text is no JSON document at all. -/
  | notADocument
deriving Repr, DecidableEq

/-- The short name of a kind of issue. -/
def IssueKind.tag : IssueKind → String
  | .missing => "missing"
  | .notAnObject .. => "model_type"
  | .notAnArray _ => "list_type"
  | .tooFewItems .. => "too_short"
  | .notAText => "string_type"
  | .undecodableText => "string_unicode"
  | .tooShort _ => "string_too_short"
  | .unknownWord _ => "enum"
  | .notAnInteger => "int_type"
  | .unreadableInteger => "int_parsing"
  | .oversizedInteger => "int_parsing_size"
  | .fractionalInteger => "int_from_float"
  | .notFinite => "finite_number"
  | .below _ => "greater_than_equal"
  | .notADocument => "json_invalid"

/-- So many things of a kind. -/
def counted (count : Nat) (noun : String) : String :=
  if count = 1 then s!"{count} {noun}" else s!"{count} {noun}s"

/-- Words as alternatives, each between quotation marks. -/
def alternatives (words : List String) : String :=
  let quoted := words.map fun word => "'" ++ word ++ "'"
  match quoted.getLast? with
  | none => ""
  | some last =>
      if quoted.length = 1 then last
      else String.intercalate ", " quoted.dropLast ++ " or " ++ last

/-- The explanation of an issue.  A text that is no document gets none here,
because its explanation is a position in the text. -/
def IssueKind.explanation? : IssueKind → Option String
  | .missing => some "Field required"
  | .notAnObject _ true => some "Input should be an object"
  | .notAnObject className false =>
      some ("Input should be a valid dictionary or instance of \x60" ++ className ++ "\x60")
  | .notAnArray true => some "Input should be a valid array"
  | .notAnArray false => some "Input should be a valid list"
  | .tooFewItems least found =>
      let items := counted least "item"
      some s!"List should have at least {items} after validation, not {found}"
  | .notAText => some "Input should be a valid string"
  | .undecodableText =>
      some "Input should be a valid string, unable to parse raw data as a unicode string"
  | .tooShort least =>
      let characters := counted least "character"
      some s!"String should have at least {characters}"
  | .unknownWord words => some ("Input should be " ++ alternatives words)
  | .notAnInteger => some "Input should be a valid integer"
  | .unreadableInteger =>
      some "Input should be a valid integer, unable to parse string as an integer"
  | .oversizedInteger =>
      some "Unable to parse input string as an integer, exceeded maximum size"
  | .fractionalInteger =>
      some "Input should be a valid integer, got a number with a fractional part"
  | .notFinite => some "Input should be a finite number"
  | .below least => some s!"Input should be greater than or equal to {least}"
  | .notADocument => none

/-- One finding of a validation. -/
structure Issue where
  kind : IssueKind
  location : List Place
deriving Repr, DecidableEq

namespace Issue

/-- An issue found one step further in. -/
def within (place : Place) (issue : Issue) : Issue :=
  { issue with location := place :: issue.location }

/-- An issue of the value that is looked at. -/
def here (kind : IssueKind) : Issue := ⟨kind, []⟩

end Issue

end AffinityPool.Settings
