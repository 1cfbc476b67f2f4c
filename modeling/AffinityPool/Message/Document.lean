/-
Module: AffinityPool.Message.Document
Purpose: The documents that messages become when they are sent as JSON.
Main exports:
  Message.dump, Message.sendable, Message.document
-/
import AffinityPool.Failure

namespace AffinityPool.Message

/-!
A record of a declared class knows how to become a document: fields under their
document names, unset fields left out, octets as text.  Inside of a record this
holds at every level.  Everything else must have a JSON form already, and the
first part without one, in document order, is what a request fails for.
-/

/-- The text that octets are, if they are UTF-8. -/
def octetsText (octets : List UInt8) : Except Failure Json :=
  match String.fromUTF8? ⟨octets.toArray⟩ with
  | some decoded => .ok (.text decoded)
  | none => .error .undecodableText

mutual

/-- The document of a record or of a part of one.  Numbers that JSON cannot
write become null. -/
def dump : Message → Except Failure Json
  | .null => .ok .null
  | .bool value => .ok (.bool value)
  | .int value => .ok (.int value)
  | .float value => .ok (if value.isFinite then .float value else .null)
  | .text value => .ok (.text value)
  | .bytes octets | .byteArray octets => octetsText octets
  | .list items | .tuple items | .deque items | .set items => (dumpItems items).map .array
  | .dict members => (dumpMembers [] members).map .object
  | .model _ fields => (dumpFields [] fields).map .object
  | .view _ | .object _ | .accessor _ => .error .unknownClass

/-- The documents of items. -/
def dumpItems : List Message → Except Failure (List Json)
  | [] => .ok []
  | item :: rest => do
      let first ← dump item
      let others ← dumpItems rest
      .ok (first :: others)

/-- The members of a mapping, added to those before. -/
def dumpMembers (before : Json.Members) : List (String × Message) → Except Failure Json.Members
  | [] => .ok before
  | (name, value) :: rest => do
      let value ← dump value
      dumpMembers (before.set name value) rest

/-- The fields of a record that are set, added to those before, each under its
document name if it has one. -/
def dumpFields (before : Json.Members) :
    List (String × Option String × Message) → Except Failure Json.Members
  | [] => .ok before
  | (_, _, .null) :: rest => dumpFields before rest
  | (name, second, value) :: rest => do
      let value ← dump value
      dumpFields (before.set (second.getD name) value) rest

end

/-- The form in which a request is sent: a record as its document, and anything
else as it is. -/
def sendable : Message → Except Failure Message
  | .model className fields => (dump (.model className fields)).map .ofJson
  | message => .ok message

mutual

/-- The document a message is, if every part of it has a JSON form. -/
def document : Message → Except Failure Json
  | .null => .ok .null
  | .bool value => .ok (.bool value)
  | .int value => .ok (.int value)
  | .float value => if value.isFinite then .ok (.float value) else .error .notANumber
  | .text value => .ok (.text value)
  | .list items | .tuple items => (documentItems items).map .array
  | .dict members => (documentMembers members).map .object
  | _ => .error .notSerialisable

/-- The documents of items. -/
def documentItems : List Message → Except Failure (List Json)
  | [] => .ok []
  | item :: rest => do
      let first ← document item
      let others ← documentItems rest
      .ok (first :: others)

/-- The documents of members. -/
def documentMembers : List (String × Message) → Except Failure Json.Members
  | [] => .ok []
  | (name, value) :: rest => do
      let value ← document value
      let others ← documentMembers rest
      .ok ((name, value) :: others)

end

end AffinityPool.Message
