/-
Module: AffinityPool.Hub.Action
Purpose: Everything that can happen to a hub, one action at a time.
Main exports:
  Action, Hub.step, Hub.run, Hub.Reachable
-/
import AffinityPool.Hub.Routing

namespace AffinityPool

/-!
Callers begin and cancel calls, read and abandon streams, and ask for shutdown.
The transport answers, ends and fails calls and returns from closes.  The clock
moves.  The two background jobs go on by themselves.  An action that is not
possible in a state has no step.  Any order of possible actions is a run, so a
statement about all runs covers every interleaving.
-/

/-- Something that happens to a hub.  `supply` is what making a channel yields
at that moment. -/
inductive Action where
  /-- A call with one request starts; a stream starts when it is first read, and
  a future with its task. -/
  | begin (id : CallId) (shape : Shape) (method : String) (request : Message)
      (supply : Option Failure)
  /-- A call with a sequence of requests starts. -/
  | beginMany (id : CallId) (shape : Shape) (method : String) (supply : Option Failure)
  /-- The caller's sequence yields its first request, ends without one, or fails. -/
  | firstRequest (id : CallId) (result : Except Failure (Option Message))
      (supply : Option Failure)
  /-- The transport brings a response. -/
  | respond (id : CallId) (response : Message)
  /-- The transport ends a stream of responses. -/
  | finish (id : CallId)
  /-- The transport, or the caller's sequence that it reads, fails. -/
  | fail (id : CallId) (failure : Failure)
  /-- The reader asks for the next response. -/
  | read (id : CallId)
  /-- The reader closes the stream, and the transport is done with it. -/
  | abandon (id : CallId)
  /-- The reader closes the stream, and the transport fails over it. -/
  | abandonFails (id : CallId) (failure : Failure)
  /-- The caller is cancelled while it waits. -/
  | cancel (id : CallId)
  | shutdown (id : CallId) (grace : Option Grace)
  | shutdownNow (id : CallId)
  /-- The caller of a shutdown is cancelled while it waits. -/
  | cancelWaiter (id : CallId)
  | tick (seconds : Rat)
  | drainStarts
  | drainWakes
  | drainExpires
  | drainGoesOn
  | drainReturns
  | teardownStarts
  /-- The transport returns from closing a channel, perhaps with a failure. -/
  | closeReturns (failure : Option Failure)
  | waiterReturns (id : CallId)
deriving Repr

namespace Hub

/-- The notes of a step as effects. -/
def noted (notes : List Note) : List Effect := notes.map .note

/-- Count a call as exited.  The last one gives the signal a shutdown waits
for. -/
def endCall (hub : Hub) : Hub :=
  let inFlight := hub.inFlight - 1
  { hub with inFlight, drained := hub.drained || (hub.closing && inFlight = 0) }

/-- A call exits that occupies no slot. -/
def exitUnplaced (hub : Hub) (id : CallId) (outcome : Outcome) : Hub × List Effect :=
  ((hub.dropCall id).endCall, [.exited id outcome])

/-- A call exits that occupies a slot. -/
def exitPlaced (hub : Hub) (id : CallId) (slot : Nat) (outcome : Outcome) : Hub × List Effect :=
  match hub.pool.release slot with
  | .ok pool => { hub with pool }.exitUnplaced id outcome
  | .error failure => hub.exitUnplaced id (.failed failure)

/-- Place an admitted call and hand it to the transport. -/
def dispatch (hub : Hub) (id : CallId) (call : Call) (opening : Opening)
    (supply : Option Failure) : Hub × List Effect :=
  match requestKey call.rule opening.keyRequest? with
  | .error failure => hub.exitUnplaced id (.failed failure)
  | .ok (key, notes) =>
      match hub.place call.method key supply with
      | .error (failure, effects) =>
          let (hub, exit) := hub.exitUnplaced id (.failed failure)
          (hub, noted notes ++ effects ++ exit)
      | .ok placement =>
          let call := { call with phase := .waiting placement.slot opening none }
          (placement.hub.setCall id call,
            noted notes ++ placement.effects ++
              [.dispatched id placement.slot call.shape call.method opening])

/-- Count a call as admitted. -/
def withAdmitted (hub : Hub) (id : CallId) (call : Call) : Hub :=
  { hub with inFlight := hub.inFlight + 1 }.setCall id call

/-- A call that was just admitted. -/
def newCall (hub : Hub) (shape : Shape) (method : String) : Call :=
  { shape, method, rule := hub.rules.ruleFor method, phase := .peeking }

/-- Refuse a call: nothing changes. -/
def refuse (hub : Hub) (id : CallId) : Hub × List Effect :=
  (hub, [.exited id (.failed .poolClosed)])

/-- A call with one request starts. -/
def begin (hub : Hub) (id : CallId) (shape : Shape) (method : String) (request : Message)
    (supply : Option Failure) : Hub × List Effect :=
  if hub.closing then hub.refuse id
  else
    let call := hub.newCall shape method
    let (hub, effects) := (hub.withAdmitted id call).dispatch id call (.single request) supply
    (hub, .admitted id :: effects)

/-- Whether the first request of a call must be seen before it is placed. -/
def mustPeek (rule : Option Rule) : Bool :=
  match rule with
  | some rule => rule.command.readsRequest
  | none => false

/-- A call with a sequence of requests starts. -/
def beginMany (hub : Hub) (id : CallId) (shape : Shape) (method : String)
    (supply : Option Failure) : Hub × List Effect :=
  if hub.closing then hub.refuse id
  else
    let call := hub.newCall shape method
    let hub := hub.withAdmitted id call
    if mustPeek call.rule then (hub, [.admitted id])
    else
      let (hub, effects) := hub.dispatch id call .untouched supply
      (hub, .admitted id :: effects)

/-- The first request of a call has come, or there is none. -/
def firstRequest (hub : Hub) (id : CallId) (call : Call)
    (result : Except Failure (Option Message)) (supply : Option Failure) : Hub × List Effect :=
  match result with
  | .error failure => hub.exitUnplaced id (.failed failure)
  | .ok none => hub.dispatch id call .exhausted supply
  | .ok (some request) => hub.dispatch id call (.restored request) supply

/-- A call succeeds: its effect on the index happens, and then it exits.  An
effect that cannot be told or that fails is the call's failure. -/
def succeed (hub : Hub) (id : CallId) (slot : Nat)
    (effect : Except Failure (IndexEffect × List Note)) (outcome : Outcome) :
    Hub × List Effect :=
  match effect with
  | .error failure => hub.exitPlaced id slot (.failed failure)
  | .ok (effect, before) =>
      let (result, changed, notes) := hub.applyEffect slot effect
      let outcome := match result with
        | .ok _ => outcome
        | .error failure => .failed failure
      let (hub, exit) := changed.exitPlaced id slot outcome
      (hub, noted (before ++ notes) ++ exit)

/-- The transport brings a response. -/
def respond (hub : Hub) (id : CallId) (call : Call) (slot : Nat) (opening : Opening)
    (firstKey : Option String) (response : Message) : Hub × List Effect :=
  if call.shape.streamsResponses then
    match keyAfter call.rule firstKey response with
    | .error failure => hub.exitPlaced id slot (.failed failure)
    | .ok firstKey =>
        (hub.setCall id { call with phase := .paused slot opening firstKey },
          [.delivered id response])
  else
    hub.succeed id slot (unaryEffect call.rule opening.keyRequest? response) (.replied response)

/-- Ask the teardown to start, unless it has been asked before. -/
def requestTeardown (hub : Hub) : Hub :=
  match hub.teardown with
  | .absent => { hub with teardown := .scheduled }
  | _ => hub

/-- The first caller of a shutdown starts the drain; the others join it, and
their grace has no influence. -/
def shutdown (hub : Hub) (id : CallId) (grace : Option Grace) : Hub × List Effect :=
  let waiters := hub.waiters ++ [(id, Waiter.drain)]
  match hub.drain with
  | .absent =>
      ({ hub with
          closing := true
          drained := hub.drained || hub.inFlight = 0
          drain := .scheduled grace
          waiters },
        [.note (.shuttingDown hub.inFlight)])
  | _ => ({ hub with waiters }, [])

/-- Close the channels without waiting for calls. -/
def shutdownNow (hub : Hub) (id : CallId) : Hub × List Effect :=
  ({ hub with
      closing := true
      drained := true
      waiters := hub.waiters ++ [(id, Waiter.teardown)] }.requestTeardown,
    [.note (.closingNow hub.inFlight)])

/-- Where the drain stands that begins to wait.  A time of zero or less is over
at once, whatever the signal says. -/
def startDrain (hub : Hub) : Option Grace → Drain
  | none => .waiting none
  | some grace =>
      if grace.seconds ≤ 0 then .resuming (some grace.shown)
      else if Grace.beyond ≤ grace.seconds then .aborted .graceTooLong
      else .waiting (some (hub.clock + grace.seconds, grace.shown))

/-- The drain goes on after its wait.  Whether the grace was over was settled
when the wait ended; how many calls are in flight is counted now. -/
def resumeDrain (hub : Hub) (expired : Option String) : Hub × List Effect :=
  let notes := match expired with
    | some grace => [Note.graceExpired grace hub.inFlight]
    | none => []
  ({ hub with drain := .joining }.requestTeardown, noted notes)

/-- Go on to the next channel to be closed, or finish. -/
def closeNext (hub : Hub) (later : List Nat) : Hub × List Effect :=
  match later with
  | slot :: later => ({ hub with teardown := .closing slot later }, [.closing slot])
  | [] =>
      ({ hub with teardown := .done, closed := true }, [.note (.closed hub.pool.size)])

/-- The teardown begins, with the channels there are at this moment. -/
def startTeardown (hub : Hub) : Hub × List Effect :=
  hub.closeNext (List.range hub.pool.size)

/-- One channel has been closed.  A failure is noted and otherwise passed over,
but a cancellation from inside ends the teardown where it is. -/
def closeReturns (hub : Hub) (slot : Nat) (later : List Nat) : Option Failure → Hub × List Effect
  | some .cancelled => ({ hub with teardown := .aborted later }, [])
  | some failure =>
      let (next, effects) := hub.closeNext later
      (next, .note (.closeFailed (hub.affinity.number slot) failure) :: effects)
  | none => hub.closeNext later

/-- Forget a waiting caller. -/
def dropWaiter (hub : Hub) (id : CallId) : Hub :=
  { hub with waiters := hub.waiters.filter (·.1 ≠ id) }

/-- Whether what a caller waits for has come. -/
def isOver (hub : Hub) : Waiter → Bool
  | .drain => hub.drain = .done
  | .teardown => hub.teardown = .done

/-- Why what a caller waits for cannot come any more. -/
def abort? (hub : Hub) : Waiter → Option Abort
  | .drain =>
      match hub.drain with
      | .aborted abort => some abort
      | _ => none
  | .teardown =>
      match hub.teardown with
      | .aborted _ => some .closeCancelled
      | _ => none

/-- One action on a hub, if it is possible. -/
def step (hub : Hub) : Action → Option (Hub × List Effect)
  | .begin id shape method request supply =>
      if (hub.call? id).isNone ∧ !shape.streamsRequests then
        some (hub.begin id shape method request supply)
      else none
  | .beginMany id shape method supply =>
      if (hub.call? id).isNone ∧ shape.streamsRequests then
        some (hub.beginMany id shape method supply)
      else none
  | .firstRequest id result supply =>
      match hub.call? id with
      | some call =>
          if call.phase == .peeking then some (hub.firstRequest id call result supply) else none
      | none => none
  | .respond id response =>
      match hub.call? id with
      | some call =>
          match call.phase with
          | .waiting slot opening firstKey =>
              some (hub.respond id call slot opening firstKey response)
          | _ => none
      | none => none
  | .finish id =>
      match hub.call? id with
      | some call =>
          match call.phase, call.shape.streamsResponses with
          | .waiting slot opening firstKey, true =>
              some (hub.succeed id slot
                (streamEffect call.rule opening.keyRequest? firstKey) .ended)
          | _, _ => none
      | none => none
  | .fail id failure =>
      match hub.call? id with
      | some call =>
          match call.phase with
          | .waiting slot _ _ => some (hub.exitPlaced id slot (.failed failure))
          | _ => none
      | none => none
  | .read id =>
      match hub.call? id with
      | some call =>
          match call.phase with
          | .paused slot opening firstKey =>
              some (hub.setCall id { call with phase := .waiting slot opening firstKey }, [])
          | _ => none
      | none => none
  | .abandon id =>
      match hub.call? id with
      | some call =>
          match call.phase with
          | .paused slot _ _ => some (hub.exitPlaced id slot .abandoned)
          | _ => none
      | none => none
  | .abandonFails id failure =>
      match hub.call? id with
      | some call =>
          match call.phase with
          | .paused slot _ _ => some (hub.exitPlaced id slot (.failed failure))
          | _ => none
      | none => none
  | .cancel id =>
      match hub.call? id with
      | some call =>
          match call.phase with
          | .peeking => some (hub.exitUnplaced id (.failed .cancelled))
          | .waiting slot _ _ => some (hub.exitPlaced id slot (.failed .cancelled))
          | .paused .. => none
      | none => none
  | .shutdown id grace =>
      if (hub.waiters.lookup id).isNone then some (hub.shutdown id grace) else none
  | .shutdownNow id =>
      if (hub.waiters.lookup id).isNone then some (hub.shutdownNow id) else none
  | .cancelWaiter id =>
      if (hub.waiters.lookup id).isSome then some (hub.dropWaiter id, []) else none
  | .tick seconds =>
      if 0 ≤ seconds then some ({ hub with clock := hub.clock + seconds }, []) else none
  | .drainStarts =>
      match hub.drain with
      | .scheduled grace => some ({ hub with drain := hub.startDrain grace }, [])
      | _ => none
  | .drainWakes =>
      match hub.drain with
      | .waiting _ =>
          if hub.drained then some ({ hub with drain := .resuming none }, []) else none
      | _ => none
  | .drainExpires =>
      match hub.drain with
      | .waiting (some (deadline, grace)) =>
          if deadline ≤ hub.clock ∧ !hub.drained then
            some ({ hub with drain := .resuming (some grace) }, [])
          else none
      | _ => none
  | .drainGoesOn =>
      match hub.drain with
      | .resuming expired => some (hub.resumeDrain expired)
      | _ => none
  | .drainReturns =>
      match hub.drain, hub.teardown with
      | .joining, .done => some ({ hub with drain := .done }, [])
      | .joining, .aborted _ => some ({ hub with drain := .aborted .closeCancelled }, [])
      | _, _ => none
  | .teardownStarts =>
      match hub.teardown with
      | .scheduled => some hub.startTeardown
      | _ => none
  | .closeReturns failure =>
      match hub.teardown with
      | .closing slot later => some (hub.closeReturns slot later failure)
      | _ => none
  | .waiterReturns id =>
      match hub.waiters.lookup id with
      | some waiter =>
          if hub.isOver waiter then some (hub.dropWaiter id, [.returned id])
          else (hub.abort? waiter).map fun abort =>
            (hub.dropWaiter id, [.thwarted id abort.failure])
      | none => none

/-- A run of actions, each of them possible, with all effects in order. -/
def run (hub : Hub) : List Action → Option (Hub × List Effect)
  | [] => some (hub, [])
  | action :: rest => do
      let (next, effects) ← hub.step action
      let (last, more) ← next.run rest
      some (last, effects ++ more)

/-- The states of the runs that start from a fresh hub. -/
def Reachable (hub : Hub) : Prop :=
  ∃ rules limits actions effects, (fresh rules limits).run actions = some (hub, effects)

end Hub

end AffinityPool
