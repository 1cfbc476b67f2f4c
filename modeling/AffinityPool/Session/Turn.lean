/-
Module: AffinityPool.Session.Turn
Purpose: What a session does by itself until everybody waits.
Main exports:
  Session.act, Session.turn?, Session.settle
-/
import AffinityPool.Hub.Action
import AffinityPool.Session.Basic

namespace AffinityPool.Session

/-!
A turn is one action of the hub, or one step of an exchange that the hub does
not see.  Live calls go first, in the order in which they were admitted, and
then the background jobs.  A session settles by taking turns until there is
none, which is when everybody waits for something outside.
-/

variable {σ : Type}

/-- How the task that waits for a call ends when the call exits. -/
def completionOf (reader : Option Reader) : Outcome → Completion
  | .replied response => .replied response
  | .ended =>
      match reader with
      | some (.all responses) => .collected responses
      | _ => .ended
  | .abandoned => .finished
  | .failed failure =>
      match reader, failure with
      | some (.all _), .cancelled => .failed .cancelled
      | some (.all responses), failure => .interrupted responses failure
      | _, failure => .failed failure

/-- A call exits: the transport is done with it, and so are its caller's tasks. -/
def exited (session : Session σ) (id : CallId) (outcome : Outcome) : Session σ :=
  let streams :=
    if (session.streams.get? id).isSome then session.streams.put id .finished else session.streams
  { session with
      state := session.transport.stop session.state id
      exchanges := session.exchanges.drop id
      readers := session.readers.drop id
      streams := streams }.complete id (completionOf (session.readers.get? id) outcome)

/-- A response is passed to the reader of a stream. -/
def delivered (session : Session σ) (id : CallId) (response : Message) : Session σ :=
  match session.readers.get? id with
  | some .next =>
      { session with readers := session.readers.drop id }.complete id (.item response)
  | some (.all responses) =>
      { session with readers := session.readers.put id (.all (responses ++ [response])) }
  | _ => session

/-- A caller's shutdown has returned. -/
def returned (session : Session σ) (id : CallId) : Session σ :=
  match session.reraised.get? id with
  | some failure =>
      { session with reraised := session.reraised.drop id }.complete id (.failed failure)
  | none => session.complete id .finished

/-- A caller's shutdown has failed.  What its own work raised is lost over it. -/
def thwarted (session : Session σ) (id : CallId) (failure : Failure) : Session σ :=
  { session with reraised := session.reraised.drop id }.complete id (.failed failure)

/-- What an effect of the hub means for the rest of the session. -/
def absorb (session : Session σ) : Effect → Session σ
  | .note note => { session with notes := session.notes ++ [note] }
  | .created _ => { session with state := session.transport.create session.state }
  | .creationFailed => { session with state := session.transport.creationFailed session.state }
  | .admitted _ => session
  | .dispatched id slot shape method opening =>
      let exchange := (session.exchanges.get? id).getD (.holding .atOnce .empty)
      { session with
          exchanges := session.exchanges.put id (exchange.opened ⟨slot, shape, method⟩ opening) }
  | .delivered id response => session.delivered id response
  | .exited id outcome => session.exited id outcome
  | .closing slot => { session with state := session.transport.beginClose session.state slot }
  | .returned id => session.returned id
  | .thwarted id failure => session.thwarted id failure

/-- Let an action happen to the hub.  An action that is not possible changes
nothing. -/
def act (session : Session σ) (action : Action) : Session σ :=
  match session.hub.step action with
  | none => session
  | some (hub, effects) => effects.foldl absorb { session with hub }

/-- The action of a call for which something has arrived. -/
def actionOf (id : CallId) : Arrival → Action
  | .response response => .respond id response
  | .ended => .finish id
  | .failed failure => .fail id failure

/-- The turn of a call that waits for its first request. -/
def peekTurn? (session : Session σ) (id : CallId) (manner : Manner) (requests : Requests) :
    Option (Session σ) :=
  let (pulled, rest) := requests.pull
  let session := { session with exchanges := session.exchanges.put id (.holding manner rest) }
  let result : Option (Except Failure (Option Message)) := match pulled with
    | .request request => some (.ok (some request))
    | .failure failure => some (.error failure)
    | .ended => some (.ok none)
    | .waiting => none
  result.map fun result => session.act (.firstRequest id result session.supply)

/-- The turn of a live call, if it can go on. -/
def callTurn? (session : Session σ) (id : CallId) (phase : Phase) : Option (Session σ) :=
  match phase, session.exchanges.get? id with
  | .peeking, some (.holding manner requests) => session.peekTurn? id manner requests
  | .waiting .., some exchange =>
      (session.transport.advance session.state id exchange).map fun advance =>
        let session :=
          { session with
              state := advance.state
              exchanges := session.exchanges.put id advance.exchange }
        match advance.arrival with
        | some arrival => session.act (actionOf id arrival)
        | none => session
  | .paused .., _ =>
      match session.readers.get? id with
      | some .next | some (.all _) => some (session.act (.read id))
      | _ => none
  | _, _ => none

/-- The turn of closing a channel, if the transport has come to the end of it. -/
def closeTurn? (session : Session σ) : Option (Session σ) :=
  match session.hub.teardown with
  | .closing slot _ =>
      (session.transport.endClose session.state slot).map fun closing =>
        { session with
            state := closing.state
            notes := session.notes ++ closing.notes }.act (.closeReturns closing.failure)
  | _ => none

/-- What the background jobs and the callers of a shutdown can do. -/
def backgroundActions (session : Session σ) : List Action :=
  [.drainStarts, .drainWakes, .drainExpires, .drainGoesOn, .teardownStarts, .drainReturns] ++
    session.hub.waiters.map fun waiter => .waiterReturns waiter.1

/-- The turn of the background jobs. -/
def backgroundTurn? (session : Session σ) : Option (Session σ) :=
  match session.backgroundActions.find? fun action => (session.hub.step action).isSome with
  | some action => some (session.act action)
  | none => session.closeTurn?

/-- The next turn, if anybody can go on. -/
def turn? (session : Session σ) : Option (Session σ) :=
  match session.hub.calls.findSome? fun entry => session.callTurn? entry.1 entry.2.phase with
  | some session => some session
  | none => session.backgroundTurn?

/-- Take turns until there is none. -/
def takeTurns : (fuel : Nat) → Session σ → Session σ
  | 0, session => session
  | fuel + 1, session =>
      match session.turn? with
      | some session => takeTurns fuel session
      | none => session

/-- A bound on the number of turns.  Everything that comes takes one turn and
makes at most one more necessary; a call takes a few turns of its own, and so do
the background jobs. -/
def effort (session : Session σ) : Nat :=
  let requests := session.exchanges.foldl (fun total entry => total + entry.2.backlog) 0
  4 * (session.transport.backlog session.state + requests + session.hub.calls.length +
    session.hub.pool.size + session.hub.waiters.length + 4)

/-- Take turns until everybody waits. -/
def settle (session : Session σ) : Session σ := takeTurns session.effort session

end AffinityPool.Session
