/-
Module: AffinityPool.Message.Basic
Purpose: The values that calls carry, by the ways they can be looked into.
Main exports:
  Message, Message.kindName, Message.items?, Message.record, Message.field?
-/
import AffinityPool.Json.Basic

namespace AffinityPool

/-!
A transport hands over whatever its codec produces: plain scalars, sequences,
mappings, records of a declared class, objects with attributes, and objects
that answer for their fields by name.  Looking into a message uses only two
operations, a field by name and an item by position, and each shape supports
at most one of them.
-/

/-- A request or response message, or a part of one. -/
inductive Message where
  | null
  | bool (value : Bool)
  | int (value : Int)
  | float (value : Binary64)
  | text (value : String)
  | bytes (octets : List UInt8)
  | byteArray (octets : List UInt8)
  | list (items : List Message)
  | tuple (items : List Message)
  | deque (items : List Message)
  | set (items : List Message)
  /-- A mapping that belongs to the message. -/
  | dict (members : List (String × Message))
  /-- A read-only view of a mapping. -/
  | view (members : List (String × Message))
  /-- An object with plain attributes. -/
  | object (attributes : List (String × Message))
  /-- An object that answers for every field, with nothing for an unset one. -/
  | accessor (fields : List (String × Message))
  /-- A record of a declared class: each field has a name, perhaps a second name
  for documents, and a value. -/
  | model (className : String) (fields : List (String × Option String × Message))
deriving Repr, BEq, Inhabited

namespace Message

/-- The name of a message's kind inside texts. -/
def kindName : Message → String
  | .null => "NoneType"
  | .bool _ => "bool"
  | .int _ => "int"
  | .float _ => "float"
  | .text _ => "str"
  | .bytes _ => "bytes"
  | .byteArray _ => "bytearray"
  | .list _ => "list"
  | .tuple _ => "tuple"
  | .deque _ => "deque"
  | .set _ => "set"
  | .dict _ => "dict"
  | .view _ => "mappingproxy"
  | .object _ => "Plain"
  | .accessor _ => "Accessor"
  | .model className _ => className

/-- The items of a sequence.  Texts and immutable octets are scalars here. -/
def items? : Message → Option (List Message)
  | .list items | .tuple items | .deque items => some items
  | .byteArray octets => some (octets.map fun octet => .int octet.toNat)
  | _ => none

/-- The value of a record's field: a field of that name goes before a field of
that document name. -/
def modelField? (fields : List (String × Option String × Message)) (name : String) :
    Option Message :=
  match fields.find? (·.1 = name) with
  | some found => some found.2.2
  | none => (fields.find? (·.2.1 = some name)).map (·.2.2)

/-- The fields of a record that is built from given values.  A field takes the
value given under its document name, and otherwise the one given under its own
name.  A given value is used once, and a field for which none is left is
null. -/
def fieldsFrom (given : List (String × Message)) :
    List (String × Option String) → List (String × Option String × Message)
  | [] => []
  | (name, second) :: rest =>
      let source :=
        match second with
        | some second => if (given.lookup second).isSome then second else name
        | none => name
      (name, second, (given.lookup source).getD .null) ::
        fieldsFrom (given.filter (·.1 ≠ source)) rest

/-- A record of a class from its declared fields, each with a value given under
the field's own name. -/
def record (className : String) (fields : List (String × Option String × Message)) : Message :=
  .model className <|
    fieldsFrom (fields.map fun field => (field.1, field.2.2))
      (fields.map fun field => (field.1, field.2.1))

/-- The value of a field by name, and nothing where the message has no such
field.  An accessor has every field, unset ones being null. -/
def field? (message : Message) (name : String) : Option Message :=
  match message with
  | .dict members | .view members | .object members => members.lookup name
  | .accessor fields => some ((fields.lookup name).getD .null)
  | .model _ fields => modelField? fields name
  | _ => none

/-- Whether an object claims to answer for its fields, as accessors do, without
being one: it has the accessors' operation as a plain attribute. -/
def feignsAnswers : Message → Bool
  | .object attributes =>
      match attributes.lookup "get_field" with
      | none | some .null => false
      | some _ => true
  | _ => false

mutual

/-- A document as a message: arrays are lists and objects are mappings.  Messages
hold characters only, so the replacement character stands for a half. -/
def ofJson : Json → Message
  | .null => .null
  | .bool value => .bool value
  | .int value => .int value
  | .float value => .float value
  | .text value => .text value.toString
  | .array items => .list (ofJsonItems items)
  | .object members => .dict (ofJsonMembers members)

/-- The items of an array as messages. -/
def ofJsonItems : List Json → List Message
  | [] => []
  | item :: rest => ofJson item :: ofJsonItems rest

/-- The members of an object as messages. -/
def ofJsonMembers : Json.Members → List (String × Message)
  | [] => []
  | (name, value) :: rest => (name.toString, ofJson value) :: ofJsonMembers rest

end

end Message

end AffinityPool
