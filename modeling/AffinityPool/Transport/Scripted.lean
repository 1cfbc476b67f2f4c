/-
Module: AffinityPool.Transport.Scripted
Purpose: A transport that follows a script and keeps a record of its use.
Main exports:
  Scripted, Scripted.Reply, Scripted.CloseScript, Scripted.Event, Scripted.transport
-/
import AffinityPool.Transport.Basic

namespace AffinityPool

/-!
The script says which attempts at making a channel fail, what every call is
answered with, and how closing a channel goes.  The record lists what was asked
of the transport, in order.  Closing a channel does not disturb the calls it
carries; it only refuses calls that start later.
-/

namespace Scripted

/-- What a call is answered with, one reply for each thing that comes. -/
inductive Reply where
  | response (response : Message)
  | failure (failure : Failure)
  | ending

/-- How closing a channel goes. -/
structure CloseScript where
  slot : Nat
  /-- Closing waits until it is let go. -/
  held : Bool
  failure : Option Failure

/-- Something that was asked of the transport, or that it did. -/
inductive Event where
  | created (slot : Nat)
  | creationFailed (attempt : Nat)
  | called (slot : Nat) (shape : Shape) (method : String) (payload : Payload)
  | streamEnded (slot : Nat)
  | closing (slot : Nat)
  | closed (slot : Nat)
deriving Repr, BEq

end Scripted

/-- A scripted transport. -/
structure Scripted where
  /-- The attempts at making a channel that fail, counted from zero. -/
  faults : List (Nat × Failure)
  closes : List Scripted.CloseScript
  attempts : Nat
  made : Nat
  /-- The channels that are closed. -/
  closed : List Nat
  /-- The calls that have started, with their channels. -/
  running : List (CallId × Dispatch)
  /-- The replies there are for each call. -/
  replies : List (CallId × List Scripted.Reply)
  events : List Scripted.Event

namespace Scripted

/-- A scripted transport before its use. -/
def fresh (faults : List (Nat × Failure)) (closes : List CloseScript) : Scripted :=
  { faults := faults
    closes := closes
    attempts := 0
    made := 0
    closed := []
    running := []
    replies := []
    events := [] }

/-- Put an event on record. -/
def record (state : Scripted) (event : Event) : Scripted :=
  { state with events := state.events ++ [event] }

/-- Forget the events, which have been seen. -/
def seen (state : Scripted) : Scripted := { state with events := [] }

/-- The script for closing a channel. -/
def closeScript (state : Scripted) (slot : Nat) : CloseScript :=
  (state.closes.find? (·.slot = slot)).getD ⟨slot, false, none⟩

/-- Let closing a channel go on. -/
def letGo (state : Scripted) (slot : Nat) : Scripted :=
  { state with
    closes := state.closes.map fun script =>
      if script.slot = slot then { script with held := false } else script }

/-- The replies there are for a call. -/
def repliesFor (state : Scripted) (id : CallId) : List Reply :=
  (state.replies.lookup id).getD []

/-- Replace the replies for a call. -/
def setReplies (state : Scripted) (id : CallId) (replies : List Reply) : Scripted :=
  { state with replies := (id, replies) :: state.replies.filter (·.1 ≠ id) }

/-- Add replies for a call behind those there are. -/
def addReplies (state : Scripted) (id : CallId) (replies : List Reply) : Scripted :=
  state.setReplies id (state.repliesFor id ++ replies)

/-- Make a channel. -/
def create (state : Scripted) : Scripted :=
  { state with attempts := state.attempts + 1, made := state.made + 1 }.record
    (.created state.made)

/-- Fail to make a channel. -/
def failCreation (state : Scripted) : Scripted :=
  { state with attempts := state.attempts + 1 }.record (.creationFailed state.attempts)

/-- Start a call.  A closed channel refuses it. -/
def start (state : Scripted) (id : CallId) (dispatch : Dispatch) (payload : Payload) :
    Option Failure × Scripted :=
  if state.closed.contains dispatch.slot then
    (some (.raised .connection "Channel closed"), state)
  else
    (none,
      { state with running := state.running ++ [(id, dispatch)] }.record
        (.called dispatch.slot dispatch.shape dispatch.method payload))

/-- What a reply brings. -/
def Reply.arrival : Reply → Arrival
  | .response message => .response message
  | .failure cause => .failed cause
  | .ending => .ended

/-- The next reply of a call. -/
def arrival (state : Scripted) (id : CallId) : Option (Arrival × Scripted) :=
  match state.running.lookup id, state.repliesFor id with
  | some _, reply :: rest => some (reply.arrival, state.setReplies id rest)
  | _, _ => none

/-- A call is over.  For a stream that had started this is an event. -/
def stop (state : Scripted) (id : CallId) : Scripted :=
  let rest := { state with running := state.running.filter (·.1 ≠ id) }
  match state.running.lookup id with
  | some dispatch =>
      if dispatch.shape.streamsResponses then rest.record (.streamEnded dispatch.slot) else rest
  | none => rest

/-- Closing a channel ends as its script says.  A channel whose close failed is
not closed. -/
def endClose (state : Scripted) (slot : Nat) : Option (Closing Scripted) :=
  let script := state.closeScript slot
  if script.held then none
  else
    match script.failure with
    | some failure => some { failure := some failure, notes := [], state := state }
    | none =>
        some
          { failure := none
            notes := []
            state := { state with closed := state.closed ++ [slot] }.record (.closed slot) }

/-- The scripted transport.  It sends requests as they are. -/
def transport : Transport Scripted :=
  { supply := fun state => state.faults.lookup state.attempts
    create := create
    creationFailed := failCreation
    prepare := .ok
    start := start
    arrival := arrival
    stop := stop
    beginClose := fun state slot => state.record (.closing slot)
    endClose := endClose
    backlog := fun state =>
      state.replies.foldl (fun total entry => total + entry.2.length) 0 }

end Scripted

end AffinityPool
