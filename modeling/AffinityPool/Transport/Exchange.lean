/-
Module: AffinityPool.Transport.Exchange
Purpose: One call between its caller's requests and the transport.
Main exports:
  Exchange, Exchange.feed, Transport.advance
-/
import AffinityPool.Handover
import AffinityPool.Transport.Basic

namespace AffinityPool

/-!
A transport is given all requests of a call at once, in the form in which it
sends them, so the requests of a sequence are collected first.  The call starts
on its channel when the sequence has ended.
-/

/-- How far a call has come on its way to the transport and back. -/
inductive Exchange where
  /-- The caller's sequence is not yet handed over. -/
  | holding (manner : Manner) (requests : Requests)
  | sending (dispatch : Dispatch) (request : Message)
  | collecting (dispatch : Dispatch) (taken : List Message) (rest : Handover)
  | answering

namespace Exchange

/-- A call is handed to the transport. -/
def opened (exchange : Exchange) (dispatch : Dispatch) (opening : Opening) : Exchange :=
  match opening with
  | .single request => .sending dispatch request
  | opening =>
      match exchange with
      | .holding manner requests => .collecting dispatch [] (.of manner requests opening)
      | _ => .collecting dispatch [] (.of .atOnce .empty opening)

/-- A caller adds to its sequence. -/
def feed (exchange : Exchange) (fed : List Requests.Fed) : Exchange :=
  match exchange with
  | .holding manner requests => .holding manner (requests.feed fed)
  | .collecting dispatch taken rest => .collecting dispatch taken (rest.feed fed)
  | exchange => exchange

/-- How many requests are still to be taken. -/
def backlog : Exchange → Nat
  | .holding _ requests => requests.pending.length
  | .sending .. => 1
  | .collecting _ _ rest => rest.requests.pending.length
  | .answering => 0

end Exchange

namespace Transport

/-- What an exchange did when it could go on: what arrived for the call, if
anything did, and how things stand. -/
structure Advance (σ : Type) (ρ : Type := Message) where
  arrival : Option (Arrival ρ)
  exchange : Exchange
  state : σ

variable {σ ρ : Type}

/-- An exchange that goes on by itself. -/
def Advance.quiet (exchange : Exchange) (state : σ) : Advance σ ρ := ⟨none, exchange, state⟩

/-- An exchange that fails. -/
def Advance.failing (failure : Failure) (exchange : Exchange) (state : σ) : Advance σ ρ :=
  ⟨some (.failed failure), exchange, state⟩

/-- Start a call on its channel. -/
def begin (transport : Transport σ ρ) (state : σ) (id : CallId) (dispatch : Dispatch)
    (payload : Payload) : Advance σ ρ :=
  match transport.start state id dispatch payload with
  | (some failure, state) => .failing failure .answering state
  | (none, state) => .quiet .answering state

/-- Let an exchange go on, if it can. -/
def advance (transport : Transport σ ρ) (state : σ) (id : CallId) (exchange : Exchange) :
    Option (Advance σ ρ) :=
  match exchange with
  | .holding .. => none
  | .sending dispatch request =>
      match transport.prepare request with
      | .error failure => some (.failing failure exchange state)
      | .ok request => some (transport.begin state id dispatch (.one request))
  | .collecting dispatch taken rest =>
      match rest.pull with
      | (.waiting, _) => none
      | (.ended, _) => some (transport.begin state id dispatch (.many taken))
      | (.failure failure, rest) =>
          some (.failing failure (.collecting dispatch taken rest) state)
      | (.request request, rest) =>
          match transport.prepare request with
          | .error failure => some (.failing failure (.collecting dispatch taken rest) state)
          | .ok request => some (.quiet (.collecting dispatch (taken ++ [request]) rest) state)
  | .answering =>
      (transport.arrival state id).map fun (arrival, state) =>
        { arrival := some arrival, exchange := .answering, state := state }

end Transport

end AffinityPool
