/-
Module: AffinityPool.Transport.Basic
Purpose: What a transport is to those who use its channels.
Main exports:
  Payload, Arrival, Dispatch, Transport, Transport.closeAll
-/
import AffinityPool.Requests

namespace AffinityPool

/-!
A transport makes channels, carries calls on them and closes them.  Connecting,
framing and deadlines are its own affair.  Whatever a transport remembers is one
value that it is handed and hands back, so a transport is a record of functions
on that value.  A hub looks into responses, so its transports bring messages; one
that is used without a hub may bring responses of any type.
-/

/-- What a call sends. -/
inductive Payload where
  | one (request : Message)
  | many (requests : List Message)
deriving Repr, BEq

/-- What a transport brings to a call that waits for it. -/
inductive Arrival (ρ : Type := Message) where
  | response (response : ρ)
  /-- The remote side has completed the stream of responses. -/
  | ended
  | failed (failure : Failure)
deriving Repr, BEq

/-- What arrives, with something made of the response. -/
def Arrival.map {ρ τ : Type} (f : ρ → τ) : Arrival ρ → Arrival τ
  | .response brought => .response (f brought)
  | .ended => .ended
  | .failed failure => .failed failure

/-- The channel that serves a call, and what the call is. -/
structure Dispatch where
  slot : Nat
  shape : Shape
  method : String
deriving Repr, DecidableEq

/-- The outcome of closing a channel, with what the transport notes about it. -/
structure Closing (σ : Type) where
  failure : Option Failure
  notes : List Note
  state : σ

/-- A transport that remembers a value of the type `σ` and brings responses of
the type `ρ`. -/
structure Transport (σ : Type) (ρ : Type := Message) where
  /-- What making a channel yields now: nothing, or a failure. -/
  supply : σ → Option Failure
  /-- A channel is made; it goes behind those there are. -/
  create : σ → σ
  /-- A channel could not be made. -/
  creationFailed : σ → σ
  /-- The form in which a request is sent. -/
  prepare : Message → Except Failure Message
  /-- A call starts on a channel.  It may fail at once. -/
  start : σ → CallId → Dispatch → Payload → Option Failure × σ
  /-- The next thing that comes for a call that has started, if it is there. -/
  arrival : σ → CallId → Option (Arrival ρ × σ)
  /-- A call is over, in whatever way. -/
  stop : σ → CallId → σ
  /-- Closing a channel begins. -/
  beginClose : σ → Nat → σ
  /-- Closing a channel comes to its end, if it is time. -/
  endClose : σ → Nat → Option (Closing σ)
  /-- A bound on what can still come without anything happening outside. -/
  backlog : σ → Nat

namespace Transport

variable {σ ρ : Type}

/-- A transport that makes something else of every response. -/
def map {τ : Type} (transport : Transport σ ρ) (f : ρ → τ) : Transport σ τ :=
  { transport with
    arrival := fun state id =>
      (transport.arrival state id).map fun (arrival, state) => (arrival.map f, state) }

/-- Close channels one after the other, from a position on, as long as the
transport comes to the end of each.  A failure is noted and otherwise passed
over. -/
def closeAll (transport : Transport σ ρ) : List Slot → (position : Nat) → σ → List Note × σ
  | [], _, state => ([], state)
  | slot :: rest, position, state =>
      let begun := transport.beginClose state position
      match transport.endClose begun position with
      | none => ([], begun)
      | some closing =>
          let failures := match closing.failure with
            | some failure => [Note.closeFailed slot.number failure]
            | none => []
          let (notes, state) := transport.closeAll rest (position + 1) closing.state
          (closing.notes ++ failures ++ notes, state)

end Transport

end AffinityPool
