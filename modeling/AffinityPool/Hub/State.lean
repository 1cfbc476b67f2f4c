/-
Module: AffinityPool.Hub.State
Purpose: The state of a hub: one logical channel over a pool of channels.
Main exports:
  Shape, Opening, Phase, Call, Outcome, Grace, Abort, Drain, Teardown, Waiter, Hub, Effect,
  Lifecycle
-/
import AffinityPool.Affinity.Index
import AffinityPool.Affinity.Rule
import AffinityPool.Pool.Basic

namespace AffinityPool

/-!
A hub is described by what it remembers between two points at which its
callers, its transport or its own background jobs may act.  Everything that a
call does in one go, between two such points, is one action on this state; the
actions are in `AffinityPool.Hub.Action`.
-/

/-- How many requests a call sends and how many responses it brings. -/
inductive Shape where
  | unaryUnary
  | unaryStream
  | streamUnary
  | streamStream
deriving Repr, DecidableEq, Inhabited

/-- Whether a call brings a stream of responses. -/
def Shape.streamsResponses : Shape → Bool
  | .unaryStream | .streamStream => true
  | _ => false

/-- Whether a call sends a sequence of requests. -/
def Shape.streamsRequests : Shape → Bool
  | .streamUnary | .streamStream => true
  | _ => false

/-- Calls and waiting callers are told apart by names. -/
abbrev CallId := String

/-- What the hub hands to the transport as the requests of a call. -/
inductive Opening where
  /-- The only request. -/
  | single (request : Message)
  /-- The caller's sequence, from which nothing was taken. -/
  | untouched
  /-- The caller's sequence with the request taken from it put back in front. -/
  | restored (first : Message)
  /-- The caller's sequence, which turned out to be empty. -/
  | exhausted
deriving Repr, BEq

/-- The request a key may be read from: the only one, or the first one if it was
taken from the sequence. -/
def Opening.keyRequest? : Opening → Option Message
  | .single request | .restored request => some request
  | .untouched | .exhausted => none

/-- Where a call stands that has been admitted and has not exited. -/
inductive Phase where
  /-- Waiting for the first of the caller's requests. -/
  | peeking
  /-- Dispatched on a slot, waiting for the transport.  `firstKey` is the key of
  the first response that had one. -/
  | waiting (slot : Nat) (opening : Opening) (firstKey : Option String)
  /-- Dispatched on a slot, with a response in the reader's hands. -/
  | paused (slot : Nat) (opening : Opening) (firstKey : Option String)
deriving Repr, BEq

/-- The slot a call occupies. -/
def Phase.slot? : Phase → Option Nat
  | .peeking => none
  | .waiting slot _ _ | .paused slot _ _ => some slot

/-- A live call. -/
structure Call where
  shape : Shape
  method : String
  rule : Option Rule
  phase : Phase
deriving Repr, BEq

/-- How a call exits. -/
inductive Outcome where
  | replied (response : Message)
  | ended
  | failed (failure : Failure)
  /-- The reader closed the stream early. -/
  | abandoned
deriving Repr, BEq

/-- How long a shutdown waits for calls, and how notes show it. -/
structure Grace where
  seconds : Rat
  shown : String
deriving Repr, DecidableEq

/-- Clocks count in doubles.  A whole number from here on has none, because it is
no nearer to the greatest double than to `2 ^ 1024`. -/
def Grace.beyond : Rat := (Nat.pow (Nat.pow 2 128) 8 - Nat.pow (Nat.pow 2 194) 5 : Nat)

/-- Why a background job ends before its work is done. -/
inductive Abort where
  /-- The close of a channel was cancelled from inside. -/
  | closeCancelled
  /-- The grace is no time of a clock. -/
  | graceTooLong
deriving Repr, DecidableEq

/-- What a caller gets that waits for a job which ended like this. -/
def Abort.failure : Abort → Failure
  | .closeCancelled => .cancelled
  | .graceTooLong => .timeTooLong

/-- The background job that waits for the calls and then has the channels
closed.  There is at most one. -/
inductive Drain where
  | absent
  | scheduled (grace : Option Grace)
  /-- Waiting for the last call, perhaps only up to a moment. -/
  | waiting (deadline : Option (Rat × String))
  /-- The wait is over, but the job has not gone on yet.  `expired` is the grace
  if that was over before the signal came. -/
  | resuming (expired : Option String)
  /-- Waiting for the channels to be closed. -/
  | joining
  | done
  | aborted (abort : Abort)
deriving Repr, DecidableEq

/-- The background job that closes the channels one after the other.  There is
at most one. -/
inductive Teardown where
  | absent
  | scheduled
  | closing (slot : Nat) (later : List Nat)
  | done
  /-- A close was cancelled from inside, and the job with it.  The channels of
  `left` stay open. -/
  | aborted (left : List Nat)
deriving Repr, DecidableEq

/-- What a caller of a shutdown waits for. -/
inductive Waiter where
  | drain
  | teardown
deriving Repr, DecidableEq

/-- One logical channel over a pool of channels. -/
structure Hub where
  rules : RuleTable
  pool : Pool
  entries : List Binding
  /-- Calls that have been admitted and have not exited. -/
  inFlight : Int
  /-- New calls are refused. -/
  closing : Bool
  /-- All channels that were to be closed have been closed. -/
  closed : Bool
  /-- The signal that no call is in flight any more, or need not be awaited. -/
  drained : Bool
  calls : List (CallId × Call)
  drain : Drain
  teardown : Teardown
  waiters : List (CallId × Waiter)
  clock : Rat
deriving Repr, BEq

/-- What an action makes known to the outside, in order. -/
inductive Effect where
  | note (note : Note)
  | created (slot : Nat)
  | creationFailed
  /-- A call has passed the gate that a shutdown closes. -/
  | admitted (id : CallId)
  /-- The transport of a slot is called. -/
  | dispatched (id : CallId) (slot : Nat) (shape : Shape) (method : String) (opening : Opening)
  /-- A response is passed to the reader of a stream. -/
  | delivered (id : CallId) (response : Message)
  | exited (id : CallId) (outcome : Outcome)
  | closing (slot : Nat)
  | returned (id : CallId)
  /-- A shutdown fails its caller, because the job it waits for was aborted. -/
  | thwarted (id : CallId) (failure : Failure)
deriving Repr, BEq

/-- How far the life of a hub has come. -/
inductive Lifecycle where
  | idle
  | active
  | shuttingDown
  | closed
deriving Repr, DecidableEq

namespace Hub

/-- A hub before its first call. -/
def fresh (rules : RuleTable) (limits : Limits) : Hub :=
  { rules := rules
    pool := Pool.empty limits
    entries := []
    inFlight := 0
    closing := false
    closed := false
    drained := false
    calls := []
    drain := .absent
    teardown := .absent
    waiters := []
    clock := 0 }

/-- The affinity index of a hub. -/
def affinity (hub : Hub) : Affinity := ⟨hub.pool.slots, hub.entries⟩

/-- Put an affinity index in place. -/
def withAffinity (hub : Hub) (state : Affinity) : Hub :=
  { hub with pool := { hub.pool with slots := state.slots }, entries := state.entries }

/-- How far the life of the hub has come. -/
def lifecycle (hub : Hub) : Lifecycle :=
  if hub.closed then .closed
  else if hub.closing then .shuttingDown
  else if hub.pool.size = 0 then .idle
  else .active

/-- The live call of a name. -/
def call? (hub : Hub) (id : CallId) : Option Call := hub.calls.lookup id

/-- Put a call in place, behind the others if it is new. -/
def setCall (hub : Hub) (id : CallId) (call : Call) : Hub :=
  { hub with
    calls :=
      if (hub.call? id).isSome then
        hub.calls.map fun entry => if entry.1 = id then (id, call) else entry
      else hub.calls ++ [(id, call)] }

/-- Forget a call. -/
def dropCall (hub : Hub) (id : CallId) : Hub :=
  { hub with calls := hub.calls.filter (·.1 ≠ id) }

end Hub

end AffinityPool
