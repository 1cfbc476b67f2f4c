/-
Module: AffinityPool.KeyPath.Resolve
Purpose: Finding the affinity key of a message.
Main exports:
  Absence, Miss, Message.step, Message.walk, Message.affinityKey
-/
import AffinityPool.KeyPath.Basic
import AffinityPool.Message.Basic

namespace AffinityPool

/-- Why a message has no affinity key at a path. -/
inductive Absence where
  | faultyPath (fault : KeyPath.Fault)
  | unset (before : Segment)
  | noField (name : String)
  | notASequence (kind : String) (position : Nat)
  | outOfRange (position size : Nat)
  | notAText (kind : String)
  | emptyText
deriving Repr, DecidableEq

/-- The text of an absence. -/
def Absence.message : Absence → String
  | .faultyPath fault => fault.message
  | .unset before =>
      let segment := before.shown
      s!"unset value before '{segment}'"
  | .noField name => s!"no field '{name}'"
  | .notASequence kind position => s!"cannot index into {kind} with [{position}]"
  | .outOfRange position size => s!"index {position} out of range ({size} items)"
  | .notAText kind => s!"expected a string, got {kind}"
  | .emptyText => "field is empty"

/-- How a search for a key ends without one. -/
inductive Miss where
  | absent (absence : Absence)
  /-- A part of the message claims to answer for its fields and cannot. -/
  | unanswered
deriving Repr, DecidableEq

namespace Message

/-- The item at a position. -/
def item (message : Message) (position : Nat) : Except Absence Message :=
  match message.items? with
  | none => .error (.notASequence message.kindName position)
  | some items =>
      match items[position]? with
      | some item => .ok item
      | none => .error (.outOfRange position items.length)

/-- Follow one segment.  Nothing lies behind an unset value. -/
def step (message : Message) (segment : Segment) : Except Miss Message :=
  match message, segment with
  | .null, segment => .error (.absent (.unset segment))
  | message, .index position => (message.item position).mapError .absent
  | message, .field name =>
      if message.feignsAnswers then .error .unanswered
      else
        match message.field? name with
        | some value => .ok value
        | none => .error (.absent (.noField name))

/-- Follow a path segment by segment. -/
def walk (message : Message) : KeyPath → Except Miss Message
  | [] => .ok message
  | segment :: path => do
      let value ← message.step segment
      walk value path

/-- The key a value is: a text that is not empty. -/
def asKey : Message → Except Absence String
  | .text value => if value.isEmpty then .error .emptyText else .ok value
  | message => .error (.notAText message.kindName)

/-- The affinity key of a message at a written path. -/
def affinityKey (message : Message) (path : String) : Except Miss String :=
  match KeyPath.parse path with
  | .error fault => .error (.absent (.faultyPath fault))
  | .ok path => do
      let value ← message.walk path
      value.asKey.mapError .absent

end Message

end AffinityPool
