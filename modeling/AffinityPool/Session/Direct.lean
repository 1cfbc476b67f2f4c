/-
Module: AffinityPool.Session.Direct
Purpose: One channel in use without a hub.
Main exports:
  Direct, Direct.fresh, Direct.call, Direct.next, Direct.collect, Direct.abandon, Direct.close
-/
import AffinityPool.Session.Basic

namespace AffinityPool

/-!
A caller may use a channel by itself.  Then nothing is counted and nothing is
routed: a call goes to the transport and its answer comes back.
-/

/-- A stream that a caller reads directly. -/
inductive Direct.StreamState where
  | unread (plan : Plan)
  | reading (exchange : Exchange)
  | finished

/-- A single channel of a transport, the first one. -/
structure Direct (σ : Type) (ρ : Type := Message) where
  transport : Transport σ ρ
  state : σ
  streams : Ledger Direct.StreamState
  notes : List Note

namespace Direct

variable {σ ρ : Type}

/-- A channel that was just made. -/
def fresh (transport : Transport σ ρ) (state : σ) : Direct σ ρ :=
  { transport := transport, state := transport.create state, streams := [], notes := [] }

/-- Forget the notes, which have been seen. -/
def seen (direct : Direct σ ρ) : Direct σ ρ := { direct with notes := [] }

/-- A call on its way to the channel. -/
def exchangeOf (plan : Plan) : Exchange :=
  let dispatch : Dispatch := ⟨0, plan.shape, plan.method⟩
  match plan.sending with
  | .one request => .sending dispatch request
  | .many manner requests => .collecting dispatch [] (.of manner requests .untouched)

/-- Let an exchange go on until something arrives. -/
def await (direct : Direct σ ρ) (id : CallId) :
    (fuel : Nat) → Exchange → Option (Arrival ρ × Exchange) × Direct σ ρ
  | 0, _ => (none, direct)
  | fuel + 1, exchange =>
      match direct.transport.advance direct.state id exchange with
      | none => (none, direct)
      | some advance =>
          let direct := { direct with state := advance.state }
          match advance.arrival with
          | some arrival => (some (arrival, advance.exchange), direct)
          | none => direct.await id fuel advance.exchange

/-- A bound on the steps until something arrives: every request is taken, then
the call starts, and then something is there or nothing comes. -/
def effort (exchange : Exchange) : Nat := exchange.backlog + 3

/-- A call is over. -/
def stop (direct : Direct σ ρ) (id : CallId) : Direct σ ρ :=
  { direct with
      state := direct.transport.stop direct.state id
      streams :=
        if (direct.streams.get? id).isSome then direct.streams.put id .finished
        else direct.streams }

/-- Make a call for one response. -/
def callOne (direct : Direct σ ρ) (id : CallId) (plan : Plan) :
    Option (Completion ρ) × Direct σ ρ :=
  let exchange := exchangeOf plan
  match direct.await id (effort exchange) exchange with
  | (some (.response response, _), direct) => (some (.replied response), direct.stop id)
  | (some (.failed failure, _), direct) => (some (.failed failure), direct.stop id)
  | (some (.ended, _), direct) => (some .ended, direct.stop id)
  | (none, direct) => (none, direct)

/-- Prepare a call for a stream.  Nothing happens before it is read. -/
def prepareStream (direct : Direct σ ρ) (id : CallId) (plan : Plan) : Direct σ ρ :=
  { direct with streams := direct.streams.put id (.unread plan) }

/-- Read one item of a stream. -/
def next (direct : Direct σ ρ) (id : CallId) : Option (Completion ρ) × Direct σ ρ :=
  let exchange : Option Exchange := match direct.streams.get? id with
    | some (.unread plan) => some (exchangeOf plan)
    | some (.reading exchange) => some exchange
    | _ => none
  match exchange with
  | none => (some .ended, direct)
  | some exchange =>
      match direct.await id (effort exchange) exchange with
      | (some (.response response, exchange), direct) =>
          (some (.item response),
            { direct with streams := direct.streams.put id (.reading exchange) })
      | (some (.ended, _), direct) => (some .ended, direct.stop id)
      | (some (.failed failure, _), direct) => (some (.failed failure), direct.stop id)
      | (none, direct) => (none, direct)

/-- Read a stream to its end, behind the items read before. -/
def collectFrom (direct : Direct σ ρ) (id : CallId) :
    (fuel : Nat) → List ρ → Option (Completion ρ) × Direct σ ρ
  | 0, _ => (none, direct)
  | fuel + 1, responses =>
      match direct.next id with
      | (some (.item response), direct) => direct.collectFrom id fuel (responses ++ [response])
      | (some .ended, direct) => (some (.collected responses), direct)
      | (some (.failed failure), direct) => (some (.interrupted responses failure), direct)
      | (completion, direct) => (completion, direct)

/-- Read a stream to its end.  How much there is to read shows once the stream has
been opened. -/
def collect (direct : Direct σ ρ) (id : CallId) : Option (Completion ρ) × Direct σ ρ :=
  let opened := (direct.next id).2
  direct.collectFrom id (opened.transport.backlog opened.state + 2) []

/-- Make a call, and read it to its end if it brings a stream. -/
def call (direct : Direct σ ρ) (id : CallId) (plan : Plan) : Option (Completion ρ) × Direct σ ρ :=
  if plan.shape.streamsResponses then (direct.prepareStream id plan).collect id
  else direct.callOne id plan

/-- Close a stream. -/
def abandon (direct : Direct σ ρ) (id : CallId) : Direct σ ρ := direct.stop id

/-- Close the channel. -/
def close (direct : Direct σ ρ) : Option (Completion ρ) × Direct σ ρ :=
  let begun := direct.transport.beginClose direct.state 0
  match direct.transport.endClose begun 0 with
  | none => (none, { direct with state := begun })
  | some closing =>
      let completion : Completion ρ := match closing.failure with
        | some failure => .failed failure
        | none => .finished
      (some completion,
        { direct with state := closing.state, notes := direct.notes ++ closing.notes })

end Direct

end AffinityPool
