/-
Module: AffinityPool.Proofs.Hub.Transition
Purpose: What one action can do to a hub, said once, so that no invariant has to open the step
  function.
Main exports:
  Hub.Completes, Hub.Leaves, Hub.Background, Hub.Stepped, Hub.stepped_of_step
-/
import AffinityPool.Proofs.Hub.Dispatch

namespace AffinityPool

/-- The call that an action starts. -/
def Action.begins? : Action → Option CallId
  | .begin id .. | .beginMany id .. => some id
  | _ => none

/-- The call that an action is about. -/
def Action.call? : Action → Option CallId
  | .begin id .. | .beginMany id .. | .firstRequest id .. | .respond id .. | .finish id
  | .fail id .. | .read id | .abandon id | .abandonFails id _ | .cancel id => some id
  | _ => none

/-- Phases are compared by a test; for this one it decides equality. -/
theorem Phase.eq_peeking {phase : Phase} (same : (phase == .peeking) = true) :
    phase = .peeking := by
  cases phase with
  | peeking => rfl
  | waiting => cases same
  | paused => cases same

/-- How a call exits whose exchange succeeded, after its effect on the index. -/
def Outcome.afterEffect (success : Outcome) : Except Failure Unit → Outcome
  | .ok _ => success
  | .error failure => .failed failure

/-- A success stands unless something was in its way. -/
theorem Outcome.afterEffect_elim (success : Outcome) (obstacle : Option Failure) :
    success.afterEffect (obstacle.elim (.ok ()) .error) = obstacle.elim success .failed := by
  cases obstacle with
  | none => rfl
  | some failure => rfl

/-- Whether an effect is of a shutdown: the close of a channel begins, or a caller
that waits for the end returns or fails. -/
def Effect.isOfShutdown : Effect → Bool
  | .closing _ | .returned _ | .thwarted .. => true
  | _ => false

namespace Hub

/-- The action with which the exchange of a call succeeds, what it then does to
the index, and how the call exits if that goes well. -/
inductive Completes (call : Call) (opening : Opening) (firstKey : Option String) (id : CallId) :
    Action → Except Failure (IndexEffect × List Note) → Outcome → Prop where
  | replied {response : Message} (single : call.shape.streamsResponses = false) :
      Completes call opening firstKey id (.respond id response)
        (unaryEffect call.rule opening.keyRequest? response) (.replied response)
  | ended (streams : call.shape.streamsResponses = true) :
      Completes call opening firstKey id (.finish id)
        (streamEffect call.rule opening.keyRequest? firstKey) .ended

/-- The action that completes an exchange is about its call. -/
theorem Completes.about {call : Call} {opening : Opening} {firstKey : Option String} {id : CallId}
    {action : Action} {told : Except Failure (IndexEffect × List Note)} {success : Outcome}
    (completes : Completes call opening firstKey id action told success) :
    action.call? = some id := by
  cases completes <;> rfl

/-- The action that completes an exchange begins no call. -/
theorem Completes.begins {call : Call} {opening : Opening} {firstKey : Option String}
    {id : CallId} {action : Action} {told : Except Failure (IndexEffect × List Note)}
    {success : Outcome} (completes : Completes call opening firstKey id action told success) :
    action.begins? = none := by
  cases completes <;> rfl

/-- The action with which a placed call exits without an effect on the index. -/
inductive Leaves (call : Call) (id : CallId) (slot : Nat) : Action → Outcome → Prop where
  | failed {opening : Opening} {firstKey : Option String} {failure : Failure}
      (waiting : call.phase = .waiting slot opening firstKey) :
      Leaves call id slot (.fail id failure) (.failed failure)
  | cancelled {opening : Opening} {firstKey : Option String}
      (waiting : call.phase = .waiting slot opening firstKey) :
      Leaves call id slot (.cancel id) (.failed .cancelled)
  | abandoned {opening : Opening} {firstKey : Option String}
      (paused : call.phase = .paused slot opening firstKey) :
      Leaves call id slot (.abandon id) .abandoned
  | abandonFailed {opening : Opening} {firstKey : Option String} {failure : Failure}
      (paused : call.phase = .paused slot opening firstKey) :
      Leaves call id slot (.abandonFails id failure) (.failed failure)
  /-- A response of a stream cannot be asked for its key. -/
  | unreadable {opening : Opening} {firstKey : Option String} {response : Message}
      {failure : Failure} (waiting : call.phase = .waiting slot opening firstKey)
      (streams : call.shape.streamsResponses = true)
      (unread : keyAfter call.rule firstKey response = .error failure) :
      Leaves call id slot (.respond id response) (.failed failure)
  /-- The exchange succeeded, and its message cannot be asked for its key. -/
  | unanswered {opening : Opening} {firstKey : Option String} {action : Action}
      {failure : Failure} {success : Outcome}
      (waiting : call.phase = .waiting slot opening firstKey)
      (completes : Completes call opening firstKey id action (.error failure) success) :
      Leaves call id slot action (.failed failure)

/-- A call that leaves a channel was on it. -/
theorem Leaves.occupies {call : Call} {id : CallId} {slot : Nat} {action : Action}
    {outcome : Outcome} (leaves : Leaves call id slot action outcome) :
    call.phase.slot? = some slot := by
  cases leaves with
  | failed waiting => rw [waiting]; rfl
  | cancelled waiting => rw [waiting]; rfl
  | abandoned paused => rw [paused]; rfl
  | abandonFailed paused => rw [paused]; rfl
  | unreadable waiting => rw [waiting]; rfl
  | unanswered waiting => rw [waiting]; rfl

/-- The action with which a call leaves its channel is about that call. -/
theorem Leaves.about {call : Call} {id : CallId} {slot : Nat} {action : Action}
    {outcome : Outcome} (leaves : Leaves call id slot action outcome) :
    action.call? = some id := by
  cases leaves with
  | unanswered waiting completes => exact completes.about
  | _ => rfl

/-- The action with which a call leaves its channel begins no call. -/
theorem Leaves.begins {call : Call} {id : CallId} {slot : Nat} {action : Action}
    {outcome : Outcome} (leaves : Leaves call id slot action outcome) :
    action.begins? = none := by
  cases leaves with
  | unanswered waiting completes => exact completes.begins
  | _ => rfl

/-- The action with which a call exits that still waits for its first request. -/
inductive GivesUp (id : CallId) : Action → Failure → Prop where
  | failed {failure : Failure} {supply : Option Failure} :
      GivesUp id (.firstRequest id (.error failure) supply) failure
  | cancelled : GivesUp id (.cancel id) .cancelled

/-- The action that starts a call which is placed without a wait, and how the
call opens. -/
inductive Starts (hub : Hub) (id : CallId) : Action → Call → Opening → Option Failure → Prop where
  | single {shape : Shape} {method : String} {request : Message} {supply : Option Failure}
      (one : shape.streamsRequests = false) :
      Starts hub id (.begin id shape method request supply) (hub.newCall shape method)
        (.single request) supply
  | untouched {shape : Shape} {method : String} {supply : Option Failure}
      (many : shape.streamsRequests = true)
      (unread : mustPeek (hub.rules.ruleFor method) = false) :
      Starts hub id (.beginMany id shape method supply) (hub.newCall shape method) .untouched
        supply

/-- A call starts out without a channel. -/
theorem Starts.peeking {hub : Hub} {id : CallId} {action : Action} {call : Call}
    {opening : Opening} {supply : Option Failure}
    (starts : Starts hub id action call opening supply) : call.phase = .peeking := by
  cases starts with
  | single one => rfl
  | untouched many unread => rfl

/-- The action that starts a call begins that call. -/
theorem Starts.begins {hub : Hub} {id : CallId} {action : Action} {call : Call}
    {opening : Opening} {supply : Option Failure}
    (starts : Starts hub id action call opening supply) : action.begins? = some id := by
  cases starts <;> rfl

/-! ### The life of the hub -/

/-- What the callers of a shutdown, the clock and the two background jobs do.
None of it touches a call, the pool or the index. -/
inductive Background (hub : Hub) : Action → Hub → List Effect → Prop where
  | shutdownFirst {id : CallId} {grace : Option Grace} (fresh : hub.waiters.lookup id = none)
      (idle : hub.drain = .absent) :
      Background hub (.shutdown id grace)
        { hub with
          closing := true
          drained := hub.drained || hub.inFlight = 0
          drain := .scheduled grace
          waiters := hub.waiters ++ [(id, .drain)] } []
  | shutdownAgain {id : CallId} {grace : Option Grace} (fresh : hub.waiters.lookup id = none)
      (started : hub.drain ≠ .absent) :
      Background hub (.shutdown id grace)
        { hub with waiters := hub.waiters ++ [(id, .drain)] } []
  | shutdownNow {id : CallId} (fresh : hub.waiters.lookup id = none) :
      Background hub (.shutdownNow id)
        (requestTeardown
          { hub with
            closing := true
            drained := true
            waiters := hub.waiters ++ [(id, .teardown)] }) []
  | waiterCancelled {id : CallId} {waiter : Waiter}
      (waits : hub.waiters.lookup id = some waiter) :
      Background hub (.cancelWaiter id) (hub.dropWaiter id) []
  | waiterReturned {id : CallId} {waiter : Waiter} (waits : hub.waiters.lookup id = some waiter)
      (finished : hub.isOver waiter = true) :
      Background hub (.waiterReturns id) (hub.dropWaiter id) [.returned id]
  | waiterThwarted {id : CallId} {waiter : Waiter} {abort : Abort}
      (waits : hub.waiters.lookup id = some waiter) (aborted : hub.abort? waiter = some abort) :
      Background hub (.waiterReturns id) (hub.dropWaiter id) [.thwarted id abort.failure]
  | ticked {seconds : Rat} (forward : 0 ≤ seconds) :
      Background hub (.tick seconds) { hub with clock := hub.clock + seconds } []
  | drainStarted {grace : Option Grace} (scheduled : hub.drain = .scheduled grace) :
      Background hub .drainStarts { hub with drain := hub.startDrain grace } []
  | drainWoken {deadline : Option (Rat × String)} (waiting : hub.drain = .waiting deadline)
      (drained : hub.drained = true) :
      Background hub .drainWakes { hub with drain := .resuming none } []
  | drainExpired {deadline : Rat} {shown : String}
      (waiting : hub.drain = .waiting (some (deadline, shown))) (late : deadline ≤ hub.clock)
      (undrained : hub.drained = false) :
      Background hub .drainExpires { hub with drain := .resuming (some shown) } []
  | drainWentOn {expired : Option String} (resuming : hub.drain = .resuming expired) :
      Background hub .drainGoesOn (requestTeardown { hub with drain := .joining }) []
  | drainReturned (joining : hub.drain = .joining) (finished : hub.teardown = .done) :
      Background hub .drainReturns { hub with drain := .done } []
  | drainThwarted {left : List Nat} (joining : hub.drain = .joining)
      (aborted : hub.teardown = .aborted left) :
      Background hub .drainReturns { hub with drain := .aborted .closeCancelled } []
  | teardownStarted (scheduled : hub.teardown = .scheduled) :
      Background hub .teardownStarts hub.startTeardown.1 (withoutNotes hub.startTeardown.2)
  | closeReturned {slot : Nat} {later : List Nat} {failure : Option Failure}
      (closing : hub.teardown = .closing slot later) (survived : failure ≠ some .cancelled) :
      Background hub (.closeReturns failure) (hub.closeNext later).1
        (withoutNotes (hub.closeNext later).2)
  | closeCancelled {slot : Nat} {later : List Nat} (closing : hub.teardown = .closing slot later) :
      Background hub (.closeReturns (some .cancelled)) { hub with teardown := .aborted later } []

/-- Where a drain can stand that has been started. -/
theorem startDrain_eq (hub : Hub) (grace : Option Grace) :
    (∃ deadline, hub.startDrain grace = .waiting deadline) ∨
      (∃ shown, hub.startDrain grace = .resuming (some shown)) ∨
        hub.startDrain grace = .aborted .graceTooLong := by
  unfold startDrain
  split
  · exact Or.inl ⟨_, rfl⟩
  · split
    · exact Or.inr (Or.inl ⟨_, rfl⟩)
    · split
      · exact Or.inr (Or.inr rfl)
      · exact Or.inl ⟨_, rfl⟩

/-- Calls, pool, index and rules are as they were. -/
structure SameCalls (hub next : Hub) : Prop where
  rules : next.rules = hub.rules
  pool : next.pool = hub.pool
  entries : next.entries = hub.entries
  inFlight : next.inFlight = hub.inFlight
  calls : next.calls = hub.calls

/-- Asking for the channels to be closed leaves calls, pool and index alone. -/
theorem sameCalls_requestTeardown (hub : Hub) : SameCalls hub hub.requestTeardown := by
  unfold requestTeardown
  split <;> exact ⟨rfl, rfl, rfl, rfl, rfl⟩

/-- Going on to the next channel leaves calls, pool and index alone. -/
theorem sameCalls_closeNext (hub : Hub) (later : List Nat) :
    SameCalls hub (hub.closeNext later).1 := by
  cases later <;> exact ⟨rfl, rfl, rfl, rfl, rfl⟩

/-- What happens in the background leaves calls, pool and index alone. -/
theorem Background.sameCalls {hub next : Hub} {action : Action} {effects : List Effect}
    (background : Background hub action next effects) : SameCalls hub next := by
  cases background with
  | shutdownNow =>
      obtain ⟨rules, pool, entries, inFlight, calls⟩ := sameCalls_requestTeardown
        { hub with closing := true, drained := true, waiters := _ }
      exact ⟨rules, pool, entries, inFlight, calls⟩
  | drainWentOn =>
      obtain ⟨rules, pool, entries, inFlight, calls⟩ := sameCalls_requestTeardown
        { hub with drain := .joining }
      exact ⟨rules, pool, entries, inFlight, calls⟩
  | teardownStarted => exact sameCalls_closeNext hub _
  | closeReturned => exact sameCalls_closeNext hub _
  | _ => exact ⟨rfl, rfl, rfl, rfl, rfl⟩

/-- Of the channels that are left, the first one is closed next, and it alone. -/
theorem closeNext_effects (hub : Hub) (later : List Nat) :
    withoutNotes (hub.closeNext later).2 = (later.take 1).map .closing := by
  cases later <;> rfl

/-- The background makes nothing known but what a shutdown does. -/
theorem Background.effects {hub next : Hub} {action : Action} {effects : List Effect}
    (background : Background hub action next effects) :
    ∀ effect ∈ effects, effect.isOfShutdown = true := by
  have closing : ∀ later, ∀ effect ∈ withoutNotes (hub.closeNext later).2,
      effect.isOfShutdown = true := by
    intro later effect member
    rw [closeNext_effects] at member
    obtain ⟨slot, -, rfl⟩ := List.mem_map.mp member
    rfl
  cases background with
  | waiterReturned | waiterThwarted => simp [Effect.isOfShutdown]
  | teardownStarted => exact closing _
  | closeReturned => exact closing _
  | _ => simp

/-- What happens in the background begins no call. -/
theorem Background.begins {hub next : Hub} {action : Action} {effects : List Effect}
    (background : Background hub action next effects) : action.begins? = none := by
  cases background <;> rfl

/-! ### One step -/

/-- What one action can do to a hub, up to notes.  The first seven cases are
about one call each. -/
inductive Stepped (hub : Hub) : Action → Hub → List Effect → Prop where
  | refused {action : Action} {id : CallId} (begins : action.begins? = some id)
      (fresh : hub.call? id = none) (closing : hub.closing = true) :
      Stepped hub action hub [.exited id (.failed .poolClosed)]
  | waits {id : CallId} {shape : Shape} {method : String} {supply : Option Failure}
      (fresh : hub.call? id = none) (unclosed : hub.closing = false)
      (many : shape.streamsRequests = true)
      (reads : mustPeek (hub.rules.ruleFor method) = true) :
      Stepped hub (.beginMany id shape method supply)
        (hub.withAdmitted id (hub.newCall shape method)) [.admitted id]
  | begins {action : Action} {id : CallId} {call : Call} {opening : Opening}
      {supply : Option Failure} {next : Hub} {effects : List Effect}
      (fresh : hub.call? id = none) (unclosed : hub.closing = false)
      (starts : Starts hub id action call opening supply)
      (dispatching : Dispatching (hub.withAdmitted id call) id call opening supply next effects) :
      Stepped hub action next (.admitted id :: effects)
  | peeked {id : CallId} {call : Call} {first : Option Message} {supply : Option Failure}
      {next : Hub} {effects : List Effect} (live : hub.call? id = some call)
      (peeking : call.phase = .peeking)
      (dispatching : Dispatching hub id call (.ofFirst first) supply next effects) :
      Stepped hub (.firstRequest id (.ok first) supply) next effects
  | gaveUp {action : Action} {id : CallId} {call : Call} {failure : Failure}
      (live : hub.call? id = some call) (peeking : call.phase = .peeking)
      (givesUp : GivesUp id action failure) :
      Stepped hub action (hub.dropCall id).endCall [.exited id (.failed failure)]
  | delivered {id : CallId} {call : Call} {slot : Nat} {opening : Opening}
      {firstKey key : Option String} {response : Message} (live : hub.call? id = some call)
      (waiting : call.phase = .waiting slot opening firstKey)
      (streams : call.shape.streamsResponses = true)
      (read : keyAfter call.rule firstKey response = .ok key) :
      Stepped hub (.respond id response)
        (hub.setCall id { call with phase := .paused slot opening key })
        [.delivered id response]
  | resumed {id : CallId} {call : Call} {slot : Nat} {opening : Opening}
      {firstKey : Option String} (live : hub.call? id = some call)
      (paused : call.phase = .paused slot opening firstKey) :
      Stepped hub (.read id)
        (hub.setCall id { call with phase := .waiting slot opening firstKey }) []
  | completed {action : Action} {id : CallId} {call : Call} {slot : Nat} {opening : Opening}
      {firstKey : Option String} {effect : IndexEffect} {notes : List Note} {success : Outcome}
      (live : hub.call? id = some call) (waiting : call.phase = .waiting slot opening firstKey)
      (completes : Completes call opening firstKey id action (.ok (effect, notes)) success) :
      Stepped hub action
        ((hub.applyEffect slot effect).2.1.exitPlaced id slot
          (success.afterEffect (hub.applyEffect slot effect).1)).1
        ((hub.applyEffect slot effect).2.1.exitPlaced id slot
          (success.afterEffect (hub.applyEffect slot effect).1)).2
  | left {action : Action} {id : CallId} {call : Call} {slot : Nat} {outcome : Outcome}
      (live : hub.call? id = some call) (leaves : Leaves call id slot action outcome) :
      Stepped hub action (hub.exitPlaced id slot outcome).1 (hub.exitPlaced id slot outcome).2
  | background {action : Action} {next : Hub} {effects : List Effect}
      (background : Background hub action next effects) : Stepped hub action next effects

/-- A call with one request starts as the transitions say. -/
private theorem stepped_begin {hub : Hub} {id : CallId} {shape : Shape} (method : String)
    (request : Message) (supply : Option Failure) (fresh : hub.call? id = none)
    (one : shape.streamsRequests = false) :
    Stepped hub (.begin id shape method request supply)
      (hub.begin id shape method request supply).1
      (withoutNotes (hub.begin id shape method request supply).2) := by
  unfold begin
  by_cases closing : hub.closing = true
  · rw [if_pos closing]
    exact .refused rfl fresh closing
  · rw [if_neg closing]
    have unclosed : hub.closing = false := by simpa using closing
    exact .begins fresh unclosed (.single one) (dispatching_dispatch ..)

/-- A call with a stream of requests starts, or begins to wait for the first one. -/
private theorem stepped_beginMany {hub : Hub} {id : CallId} {shape : Shape} (method : String)
    (supply : Option Failure) (fresh : hub.call? id = none)
    (many : shape.streamsRequests = true) :
    Stepped hub (.beginMany id shape method supply) (hub.beginMany id shape method supply).1
      (withoutNotes (hub.beginMany id shape method supply).2) := by
  unfold beginMany
  by_cases closing : hub.closing = true
  · rw [if_pos closing]
    exact .refused rfl fresh closing
  · rw [if_neg closing]
    have unclosed : hub.closing = false := by simpa using closing
    by_cases reads : mustPeek (hub.newCall shape method).rule = true
    · simp only [reads, if_true]
      exact .waits fresh unclosed many reads
    · have unread : mustPeek (hub.rules.ruleFor method) = false := Bool.eq_false_iff.mpr reads
      rw [if_neg reads]
      exact .begins fresh unclosed (.untouched many unread) (dispatching_dispatch ..)

/-- A call goes on when its first request is there, or gives up when there is none to be had. -/
private theorem stepped_firstRequest {hub : Hub} {id : CallId} {call : Call}
    (result : Except Failure (Option Message)) (supply : Option Failure)
    (live : hub.call? id = some call) (peeking : call.phase = .peeking) :
    Stepped hub (.firstRequest id result supply) (hub.firstRequest id call result supply).1
      (withoutNotes (hub.firstRequest id call result supply).2) := by
  match result with
  | .error failure => exact .gaveUp live peeking .failed
  | .ok none => exact .peeked live peeking (dispatching_dispatch hub id call .exhausted supply)
  | .ok (some request) =>
      exact .peeked live peeking (dispatching_dispatch hub id call (.restored request) supply)

/-- There are no notes in what an exit tells. -/
@[simp] theorem withoutNotes_exitPlaced (hub : Hub) (id : CallId) (slot : Nat)
    (outcome : Outcome) :
    withoutNotes (hub.exitPlaced id slot outcome).2 = (hub.exitPlaced id slot outcome).2 := by
  unfold exitPlaced
  split <;> rfl

/-- An exchange that succeeds has its effect on the index, and the call exits. -/
private theorem stepped_succeed {hub : Hub} {id : CallId} {call : Call} {slot : Nat}
    {opening : Opening} {firstKey : Option String} {action : Action} {success : Outcome}
    {effect : Except Failure (IndexEffect × List Note)} (live : hub.call? id = some call)
    (waiting : call.phase = .waiting slot opening firstKey)
    (completes : Completes call opening firstKey id action effect success) :
    Stepped hub action (hub.succeed id slot effect success).1
      (withoutNotes (hub.succeed id slot effect success).2) := by
  unfold succeed
  cases effect with
  | error failure =>
      simp only [withoutNotes_exitPlaced]
      exact .left live (.unanswered waiting completes)
  | ok told =>
      obtain ⟨effect, notes⟩ := told
      have completed := Stepped.completed live waiting completes
      cases result : (hub.applyEffect slot effect).1 <;>
        simpa [result, Outcome.afterEffect] using completed

/-- A response ends a call for one, is passed on by a stream, or cannot be asked for its key. -/
private theorem stepped_respond {hub : Hub} {id : CallId} {call : Call} {slot : Nat}
    {opening : Opening} {firstKey : Option String} (response : Message)
    (live : hub.call? id = some call) (waiting : call.phase = .waiting slot opening firstKey) :
    Stepped hub (.respond id response)
      (hub.respond id call slot opening firstKey response).1
      (withoutNotes (hub.respond id call slot opening firstKey response).2) := by
  unfold respond
  by_cases streams : call.shape.streamsResponses = true
  · rw [if_pos streams]
    cases read : keyAfter call.rule firstKey response with
    | error failure =>
        simp only [withoutNotes_exitPlaced]
        exact .left live (.unreadable waiting streams read)
    | ok key => exact .delivered live waiting streams read
  · rw [if_neg streams]
    exact stepped_succeed live waiting (.replied (Bool.eq_false_iff.mpr streams))

/-- A call that leaves its channel exits from there. -/
private theorem stepped_left {hub next : Hub} {action : Action} {id : CallId} {call : Call}
    {slot : Nat} {outcome : Outcome} {effects : List Effect} (live : hub.call? id = some call)
    (leaves : Leaves call id slot action outcome)
    (exits : some (hub.exitPlaced id slot outcome) = some (next, effects)) :
    Stepped hub action next (withoutNotes effects) := by
  have result := Option.some.inj exits
  have left := Stepped.left live leaves
  rw [← withoutNotes_exitPlaced, result] at left
  exact left

/-- A close that returns, with a failure or without one, lets the next channel be closed, and one
that was cancelled from inside ends the job. -/
private theorem background_closeReturns {hub : Hub} {slot : Nat} {later : List Nat}
    (failure : Option Failure) (closing : hub.teardown = .closing slot later) :
    Background hub (.closeReturns failure) (hub.closeReturns slot later failure).1
      (withoutNotes (hub.closeReturns slot later failure).2) := by
  by_cases cancelled : failure = some .cancelled
  · subst cancelled
    exact .closeCancelled closing
  · have returned := Background.closeReturned closing cancelled
    cases failure with
    | none => exact returned
    | some failure =>
        cases failure with
        | cancelled => exact absurd rfl cancelled
        | _ => exact returned

/-- An action that is about no call is one of the cases of `Background`. -/
theorem background_of_step {hub next : Hub} {action : Action} {effects : List Effect}
    (kind : action.call? = none) (stepped : hub.step action = some (next, effects)) :
    Background hub action next (withoutNotes effects) := by
  cases action with
  | begin | beginMany | firstRequest | respond | finish | fail | read | abandon | abandonFails
  | cancel => simp [Action.call?] at kind
  | shutdown id grace =>
      simp only [step, Option.ite_none_right_eq_some, Option.isNone_iff_eq_none,
        Option.some.injEq] at stepped
      obtain ⟨fresh, result⟩ := stepped
      unfold shutdown at result
      split at result
      · rename_i idle
        cases result
        exact .shutdownFirst fresh idle
      · rename_i started
        cases result
        exact .shutdownAgain fresh started
  | shutdownNow id =>
      simp only [step, Option.ite_none_right_eq_some, Option.isNone_iff_eq_none,
        Option.some.injEq] at stepped
      obtain ⟨fresh, result⟩ := stepped
      cases result
      exact .shutdownNow fresh
  | cancelWaiter id =>
      simp only [step, Option.ite_none_right_eq_some, Option.isSome_iff_exists,
        Option.some.injEq] at stepped
      obtain ⟨⟨waiter, waits⟩, result⟩ := stepped
      cases result
      exact .waiterCancelled waits
  | tick seconds =>
      simp only [step, Option.ite_none_right_eq_some, Option.some.injEq] at stepped
      obtain ⟨forward, result⟩ := stepped
      cases result
      exact .ticked forward
  | drainStarts =>
      simp only [step] at stepped
      split at stepped
      · rename_i grace scheduled
        simp only [Option.some.injEq, Prod.mk.injEq] at stepped
        obtain ⟨rfl, rfl⟩ := stepped
        exact .drainStarted scheduled
      · cases stepped
  | drainWakes =>
      simp only [step] at stepped
      split at stepped
      · rename_i deadline waiting
        simp only [Option.ite_none_right_eq_some, Option.some.injEq] at stepped
        obtain ⟨drained, result⟩ := stepped
        cases result
        exact .drainWoken waiting drained
      · cases stepped
  | drainExpires =>
      simp only [step] at stepped
      split at stepped
      · rename_i deadline shown waiting
        simp only [Option.ite_none_right_eq_some, Option.some.injEq] at stepped
        obtain ⟨⟨late, undrained⟩, result⟩ := stepped
        cases result
        exact .drainExpired waiting late (by simpa using undrained)
      · cases stepped
  | drainGoesOn =>
      simp only [step] at stepped
      split at stepped
      · rename_i expired resuming
        simp only [Option.some.injEq, resumeDrain, Prod.mk.injEq] at stepped
        obtain ⟨rfl, rfl⟩ := stepped
        simpa using Background.drainWentOn resuming
      · cases stepped
  | drainReturns =>
      simp only [step] at stepped
      split at stepped
      · rename_i joining finished
        cases stepped
        exact .drainReturned joining finished
      · rename_i joining aborted
        cases stepped
        exact .drainThwarted joining aborted
      · cases stepped
  | teardownStarts =>
      simp only [step] at stepped
      split at stepped
      · rename_i scheduled
        simp only [Option.some.injEq] at stepped
        have started := Background.teardownStarted scheduled
        rw [stepped] at started
        exact started
      · cases stepped
  | closeReturns failure =>
      simp only [step] at stepped
      split at stepped
      · rename_i slot later closing
        simp only [Option.some.injEq] at stepped
        have returned := background_closeReturns failure closing
        rw [stepped] at returned
        exact returned
      · cases stepped
  | waiterReturns id =>
      simp only [step] at stepped
      split at stepped
      · rename_i waiter waits
        split at stepped
        · rename_i finished
          cases stepped
          exact .waiterReturned waits finished
        · obtain ⟨abort, aborted, result⟩ := Option.map_eq_some_iff.mp stepped
          cases result
          exact .waiterThwarted waits aborted
      · cases stepped

/-- A step is one of the cases of `Stepped`. -/
theorem stepped_of_step {hub next : Hub} {action : Action} {effects : List Effect}
    (stepped : hub.step action = some (next, effects)) :
    Stepped hub action next (withoutNotes effects) := by
  cases action with
  | begin id shape method request supply =>
      simp only [step, Option.ite_none_right_eq_some, Option.isNone_iff_eq_none,
        Option.some.injEq] at stepped
      obtain ⟨⟨fresh, one⟩, result⟩ := stepped
      have begun := stepped_begin method request supply fresh (by simpa using one)
      rw [result] at begun
      exact begun
  | beginMany id shape method supply =>
      simp only [step, Option.ite_none_right_eq_some, Option.isNone_iff_eq_none,
        Option.some.injEq] at stepped
      obtain ⟨⟨fresh, many⟩, result⟩ := stepped
      have begun := stepped_beginMany method supply fresh many
      rw [result] at begun
      exact begun
  | firstRequest id result supply =>
      simp only [step] at stepped
      split at stepped
      · rename_i call live
        simp only [Option.ite_none_right_eq_some, Option.some.injEq] at stepped
        obtain ⟨peeking, outcome⟩ := stepped
        have asked := stepped_firstRequest result supply live (Phase.eq_peeking peeking)
        rw [outcome] at asked
        exact asked
      · cases stepped
  | respond id response =>
      simp only [step] at stepped
      split at stepped
      · rename_i call live
        split at stepped
        · rename_i slot opening firstKey waiting
          have answered := stepped_respond response live waiting
          simp only [Option.some.injEq] at stepped
          rw [stepped] at answered
          exact answered
        · cases stepped
      · cases stepped
  | finish id =>
      simp only [step] at stepped
      split at stepped
      · rename_i call live
        split at stepped
        · rename_i slot opening firstKey waiting streams
          have ended := stepped_succeed live waiting
            (.ended streams : Completes call opening firstKey id (.finish id) _ _)
          simp only [Option.some.injEq] at stepped
          rw [stepped] at ended
          exact ended
        · cases stepped
      · cases stepped
  | fail id failure =>
      simp only [step] at stepped
      split at stepped
      · rename_i call live
        split at stepped
        · rename_i slot opening firstKey waiting
          exact stepped_left live (.failed waiting) stepped
        · cases stepped
      · cases stepped
  | read id =>
      simp only [step] at stepped
      split at stepped
      · rename_i call live
        split at stepped
        · rename_i slot opening firstKey paused
          cases stepped
          exact .resumed live paused
        · cases stepped
      · cases stepped
  | abandon id =>
      simp only [step] at stepped
      split at stepped
      · rename_i call live
        split at stepped
        · rename_i slot opening firstKey paused
          exact stepped_left live (.abandoned paused) stepped
        · cases stepped
      · cases stepped
  | abandonFails id failure =>
      simp only [step] at stepped
      split at stepped
      · rename_i call live
        split at stepped
        · rename_i slot opening firstKey paused
          exact stepped_left live (.abandonFailed paused) stepped
        · cases stepped
      · cases stepped
  | cancel id =>
      simp only [step] at stepped
      split at stepped
      · rename_i call live
        split at stepped
        · rename_i peeking
          cases stepped
          exact .gaveUp live peeking .cancelled
        · rename_i slot opening firstKey waiting
          exact stepped_left live (.cancelled waiting) stepped
        · cases stepped
      · cases stepped
  | _ => exact .background (background_of_step rfl stepped)

end Hub

end AffinityPool
