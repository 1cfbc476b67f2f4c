/-
Module: AffinityPool.Json.Basic
Purpose: JSON documents with whole and fractional numbers kept apart.
Main exports:
  Json, Json.Members, Json.Members.get?, Json.Members.set, Json.member?
-/
import AffinityPool.Decimal.Shortest
import AffinityPool.Text.Letter

namespace AffinityPool

/-- A JSON document.  Whole numbers are unbounded, numbers written with a
fraction or an exponent are doubles, texts may hold halves of surrogate pairs,
and members keep their order. -/
inductive Json where
  | null
  | bool (value : Bool)
  | int (value : Int)
  | float (value : Binary64)
  | text (value : Text.LooseText)
  | array (items : List Json)
  | object (members : List (Text.LooseText × Json))
deriving Repr, BEq, Inhabited

namespace Json

/-- The members of an object, each name once, in the order of first writing. -/
abbrev Members := List (Text.LooseText × Json)

/-- The value of a member. -/
def Members.get? (members : Members) (name : Text.LooseText) : Option Json :=
  List.lookup name members

/-- Write a member.  A name that is already there keeps its place and takes the
new value. -/
def Members.set : Members → Text.LooseText → Json → Members
  | [], name, value => [(name, value)]
  | (first, held) :: rest, name, value =>
      if first = name then (first, value) :: rest
      else (first, held) :: Members.set rest name value

/-- A member of a document, if the document is an object that has it. -/
def member? (document : Json) (name : Text.LooseText) : Option Json :=
  match document with
  | .object members => Members.get? members name
  | _ => none

/-- Whether a document counts as absent when a default may take its place:
null, false, zero, and every empty text, array and object. -/
def isBlank : Json → Bool
  | .null => true
  | .bool value => !value
  | .int value => value = 0
  | .float (.finite _ mantissa _) => mantissa = 0
  | .float _ => false
  | .text value => value.isEmpty
  | .array items => items.isEmpty
  | .object members => members.isEmpty

mutual

/-- A document as it is shown inside a message: texts are quoted, and the three
constants are `None`, `True` and `False`. -/
def quoted : Json → String
  | .null => "None"
  | .bool true => "True"
  | .bool false => "False"
  | .int value => toString value
  | .float value => value.text
  | .text value => value.quoted
  | .array items => "[" ++ String.intercalate ", " (quotedItems items) ++ "]"
  | .object members => "\x7b" ++ String.intercalate ", " (quotedMembers members) ++ "\x7d"

/-- The items of an array, each as shown inside a message. -/
def quotedItems : List Json → List String
  | [] => []
  | item :: rest => quoted item :: quotedItems rest

/-- The members of an object, each as shown inside a message. -/
def quotedMembers : Members → List String
  | [] => []
  | (name, value) :: rest =>
      (name.quoted ++ ": " ++ quoted value) :: quotedMembers rest

end

/-- A document as it is inserted into a message: a text stands for itself, and
everything else is shown as inside a container. -/
def shown : Json → String
  | .text value => value.toString
  | document => quoted document

end Json

end AffinityPool
