/-
Module: AffinityPool.Proofs.Hub.Rest
Purpose: No wake-up is lost: a hub that is left alone comes to rest, and a hub at rest without calls
  has finished its shutdown, unless a job of it was aborted.
Main exports:
  Action.isOwn, Hub.AtRest, Hub.Signalled, Hub.pending, Hub.exists_atRest, Hub.Wakeful,
  Hub.History.wakeful
-/
import AffinityPool.Proofs.Hub.Abort

namespace AffinityPool

/-! ### What a hub does by itself -/

/-- Whether an action is a step of the background jobs, or of a caller who has got
what it waited for.  Everything else comes from the callers, the transport, their
sequences or the clock. -/
def Action.isOwn : Action → Bool
  | .drainStarts | .drainWakes | .drainExpires | .drainGoesOn | .drainReturns
  | .teardownStarts | .waiterReturns _ => true
  | _ => false

/-- What a hub does by itself is about no call. -/
theorem Action.call?_of_own {action : Action} (own : action.isOwn = true) :
    action.call? = none := by
  cases action <;> first | rfl | cases own

/-- The steps that are left to the drain, and to the teardown it will ask for. -/
def Drain.pending : Drain → Nat
  | .absent | .done | .aborted _ => 0
  | .joining => 1
  | .resuming _ => 3
  | .waiting _ => 4
  | .scheduled _ => 5

/-- The steps that are left to the teardown until it waits for the transport. -/
def Teardown.pending : Teardown → Nat
  | .scheduled => 1
  | _ => 0

namespace Hub

/-- A hub that cannot go on by itself. -/
def AtRest (hub : Hub) : Prop := ∀ action, action.isOwn = true → hub.step action = none

/-! ### The signal -/

/-- A hub that is closing and has no call in flight has given the signal. -/
def Signalled (hub : Hub) : Prop :=
  hub.closing = true → hub.inFlight = 0 → hub.drained = true

/-- A hub that is not closing owes no signal. -/
theorem Signalled.of_unclosed {hub : Hub} (unclosed : hub.closing = false) : Signalled hub := by
  intro closing
  rw [unclosed] at closing
  cases closing

/-- Whatever the hub was like, the exit of its last call gives the signal. -/
theorem signalled_endCall (hub : Hub) : Signalled hub.endCall := by
  intro closing idle
  have shut : hub.closing = true := closing
  have last : hub.inFlight - 1 = 0 := idle
  simp [endCall, shut, last]

/-- A call that exits gives the signal if it was the last one. -/
theorem signalled_exitPlaced (hub : Hub) (id : CallId) (slot : Nat) (outcome : Outcome) :
    Signalled (hub.exitPlaced id slot outcome).1 := by
  unfold exitPlaced
  split <;> exact signalled_endCall _

theorem signalled_requestTeardown {hub : Hub} (signalled : Signalled hub) :
    Signalled hub.requestTeardown := by
  unfold requestTeardown
  split <;> exact signalled

theorem signalled_closeNext {hub : Hub} (signalled : Signalled hub) (later : List Nat) :
    Signalled (hub.closeNext later).1 := by
  cases later <;> exact signalled

/-- A call that is refused a channel gives the signal if it was the last one. -/
theorem Dispatching.signalled {hub next : Hub} {id : CallId} {call : Call} {opening : Opening}
    {supply : Option Failure} {effects : List Effect}
    (dispatching : Dispatching hub id call opening supply next effects)
    (signalled : Signalled hub) : Signalled next := by
  cases dispatching with
  | unreadable unread => exact signalled_endCall _
  | unsupplied read unbound saturated supplied => exact signalled_endCall _
  | placed read placing => exact signalled

/-- What happens in the background owes no signal. -/
theorem Background.signalled {hub next : Hub} {action : Action} {effects : List Effect}
    (background : Background hub action next effects) (signalled : Signalled hub) :
    Signalled next := by
  cases background with
  | shutdownFirst fresh idle =>
      intro closing none
      have idle : hub.inFlight = 0 := none
      simp [idle]
  | shutdownNow fresh => exact signalled_requestTeardown fun _ _ => rfl
  | drainWentOn => exact signalled_requestTeardown signalled
  | teardownStarted scheduled => exact signalled_closeNext signalled _
  | closeReturned closing => exact signalled_closeNext signalled _
  | _ => exact signalled

/-- One step loses no signal. -/
theorem Stepped.signalled {hub next : Hub} {action : Action} {effects : List Effect}
    (stepped : Stepped hub action next effects) (signalled : Signalled hub) :
    Signalled next := by
  cases stepped with
  | refused begins fresh closing => exact signalled
  | waits fresh unclosed many reads => exact .of_unclosed unclosed
  | begins fresh unclosed starts dispatching =>
      exact dispatching.signalled (.of_unclosed unclosed)
  | peeked live peeking dispatching => exact dispatching.signalled signalled
  | gaveUp live peeking givesUp => exact signalled_endCall _
  | delivered live waiting streams read => exact signalled
  | resumed live paused => exact signalled
  | completed live waiting completes => exact signalled_exitPlaced _ _ _ _
  | left live leaves => exact signalled_exitPlaced _ _ _ _
  | background background => exact background.signalled signalled

/-- After every run the signal has been given if it was due. -/
theorem History.signalled {rules : RuleTable} {limits : Limits} {past : List Moment} {hub : Hub}
    (ran : History (fresh rules limits) past hub) : Signalled hub := by
  induction ran with
  | begin => exact .of_unclosed rfl
  | next earlier stepped ih => exact (stepped_of_step stepped).signalled ih

/-! ### How long a hub can go on by itself -/

/-- The steps that a hub can take by itself, at most. -/
def pending (hub : Hub) : Nat :=
  hub.drain.pending + hub.teardown.pending + hub.waiters.length

/-- Asking for the channels to be closed leaves one more step to do, if any. -/
theorem pending_requestTeardown (hub : Hub) : hub.requestTeardown.pending ≤ hub.pending + 1 := by
  unfold requestTeardown
  split
  · rename_i absent
    simp only [pending, absent, Teardown.pending]
    omega
  · exact Nat.le_succ _

/-- While a channel closes, a hub can do nothing for that by itself. -/
theorem pending_teardown_closeNext (hub : Hub) (later : List Nat) :
    (hub.closeNext later).1.teardown.pending = 0 := by
  cases later <;> rfl

/-- The drain asks for the teardown, which leaves fewer steps than it had. -/
theorem pending_join {hub : Hub} (patient : 3 ≤ hub.drain.pending) :
    (requestTeardown { hub with drain := .joining }).pending < hub.pending := by
  have asked := pending_requestTeardown { hub with drain := .joining }
  have joining : ({ hub with drain := .joining } : Hub).pending + hub.drain.pending =
      hub.pending + 1 := by
    simp only [pending, Drain.pending]
    omega
  omega

/-- A caller that returns waits no more. -/
theorem length_dropWaiter {hub : Hub} {id : CallId} {waiter : Waiter}
    (waits : hub.waiters.lookup id = some waiter) :
    (hub.dropWaiter id).waiters.length < hub.waiters.length := by
  apply List.length_filter_lt_length_iff_exists.mpr
  by_contra nobody
  have absent : Ledger.get? hub.waiters id = none := by
    rw [Ledger.get?_eq_none_iff]
    intro entry member same
    exact nobody ⟨entry, member, by simpa using same⟩
  rw [Ledger.get?, waits] at absent
  cases absent

/-- Every step that a hub takes by itself leaves it fewer of them. -/
theorem Stepped.pending_lt {hub next : Hub} {action : Action} {effects : List Effect}
    (stepped : Stepped hub action next effects) (own : action.isOwn = true) :
    next.pending < hub.pending := by
  rcases stepped.carries_or_background with carries | background
  · obtain ⟨id, about⟩ := carries.about
    rw [Action.call?_of_own own] at about
    cases about
  · cases background with
    | waiterReturned waits | waiterThwarted waits =>
        have fewer := length_dropWaiter waits
        simp only [pending, dropWaiter] at fewer ⊢
        omega
    | drainWentOn resuming => exact pending_join (by rw [resuming]; exact Nat.le_refl 3)
    | @drainStarted grace stood =>
        rcases hub.startDrain_eq grace with ⟨deadline, stands⟩ | ⟨shown, stands⟩ | stands <;>
          · simp only [pending, stands, stood, Drain.pending]
            omega
    | drainWoken stood | drainExpired stood | drainReturned stood | drainThwarted stood =>
        simp only [pending, stood, Drain.pending]
        omega
    | teardownStarted scheduled =>
        have begun := pending_teardown_closeNext hub (List.range hub.pool.size)
        obtain ⟨-, drain, -⟩ := life_closeNext hub (List.range hub.pool.size)
        have waiters := waiters_closeNext hub (List.range hub.pool.size)
        rw [pending, startTeardown, begun, drain, waiters, pending, scheduled, Teardown.pending]
        omega
    | _ => cases own

/-- A hub that is left alone takes no more steps than are pending. -/
theorem History.length_le_pending {hub last : Hub} {later : List Moment}
    (ran : History hub later last) (alone : ∀ moment ∈ later, moment.action.isOwn = true) :
    later.length + last.pending ≤ hub.pending := by
  induction ran with
  | begin => simp
  | @next later middle last action effects earlier stepped ih =>
      have before := ih fun moment member => alone moment (List.mem_append_left _ member)
      have fewer := (stepped_of_step stepped).pending_lt (alone ⟨action, effects⟩ (by simp))
      rw [List.length_append, List.length_singleton]
      omega

/-- A hub that is left alone comes to rest. -/
theorem exists_atRest (hub : Hub) :
    ∃ later last, History hub later last ∧ (∀ moment ∈ later, moment.action.isOwn = true) ∧
      AtRest last := by
  induction left : hub.pending using Nat.strongRecOn generalizing hub with
  | ind bound ih =>
      by_cases rest : AtRest hub
      · exact ⟨[], hub, .begin, by simp, rest⟩
      · simp only [AtRest, not_forall] at rest
        obtain ⟨action, own, possible⟩ := rest
        obtain ⟨⟨next, effects⟩, stepped⟩ := Option.ne_none_iff_exists'.mp possible
        have fewer := (stepped_of_step stepped).pending_lt own
        obtain ⟨later, last, onward, alone, rests⟩ := ih next.pending (left ▸ fewer) next rfl
        have first : History hub [⟨action, effects⟩] next := .next .begin stepped
        refine ⟨⟨action, effects⟩ :: later, last, first.append onward, ?_, rests⟩
        intro moment member
        rcases List.mem_cons.mp member with rfl | further
        · exact own
        · exact alone moment further

/-! ### At rest -/

namespace AtRest

variable {hub : Hub}

/-- A teardown at rest has not been asked for, waits for the transport or is done. -/
theorem not_scheduled (rest : AtRest hub) : hub.teardown ≠ .scheduled := by
  intro scheduled
  have possible := rest .teardownStarts rfl
  simp only [step, scheduled] at possible
  cases possible

/-- A teardown at rest that was asked for is over in one way or the other, unless the
transport has yet to return from a close. -/
theorem teardown_settled (rest : AtRest hub) (asked : hub.teardown ≠ .absent)
    (returned : ∀ slot later, hub.teardown ≠ .closing slot later) :
    hub.teardown = .done ∨ ∃ left, hub.teardown = .aborted left := by
  cases teardown : hub.teardown with
  | absent => exact absurd teardown asked
  | scheduled => exact absurd teardown rest.not_scheduled
  | closing slot later => exact absurd teardown (returned slot later)
  | done => exact Or.inl rfl
  | aborted left => exact Or.inr ⟨left, rfl⟩

/-- A drain at rest that has got the signal is over in one way or the other, unless
the transport has yet to return from a close. -/
theorem drain_settled (rest : AtRest hub) (concerted : Concerted hub)
    (drained : hub.drained = true) (asked : hub.drain ≠ .absent)
    (returned : ∀ slot later, hub.teardown ≠ .closing slot later) :
    hub.drain = .done ∨ ∃ abort, hub.drain = .aborted abort := by
  cases drain : hub.drain with
  | absent => exact absurd drain asked
  | scheduled grace =>
      have possible := rest .drainStarts rfl
      simp only [step, drain] at possible
      cases possible
  | waiting deadline =>
      have possible := rest .drainWakes rfl
      simp only [step, drain, drained, if_true] at possible
      cases possible
  | resuming expired =>
      have possible := rest .drainGoesOn rfl
      simp only [step, drain] at possible
      cases possible
  | joining =>
      have possible := rest .drainReturns rfl
      rcases rest.teardown_settled (concerted.joining drain) returned with ended | ⟨left, ended⟩ <;>
        · simp only [step, drain, ended] at possible
          cases possible
  | done => exact Or.inl rfl
  | aborted abort => exact Or.inr ⟨abort, rfl⟩

/-- What somebody waits for at rest has come or cannot come any more. -/
theorem settled (rest : AtRest hub) (concerted : Concerted hub) (drained : hub.drained = true)
    (returned : ∀ slot later, hub.teardown ≠ .closing slot later) {waiter : Waiter}
    (asked : hub.isAsked waiter) :
    hub.isOver waiter = true ∨ ∃ abort, hub.abort? waiter = some abort := by
  cases waiter with
  | drain =>
      rcases rest.drain_settled concerted drained asked returned with ended | ⟨abort, ended⟩
      · exact Or.inl (decide_eq_true ended)
      · exact Or.inr ⟨abort, by simp only [abort?, ended]⟩
  | teardown =>
      rcases rest.teardown_settled asked returned with ended | ⟨left, ended⟩
      · exact Or.inl (decide_eq_true ended)
      · exact Or.inr ⟨.closeCancelled, by simp only [abort?, ended]⟩

/-- Nobody waits at rest for what has come or cannot come any more. -/
theorem not_settled (rest : AtRest hub) {id : CallId} {waiter : Waiter}
    (waits : hub.waiters.lookup id = some waiter) :
    hub.isOver waiter = false ∧ hub.abort? waiter = none := by
  have possible := rest (.waiterReturns id) rfl
  simp only [step, waits] at possible
  split at possible
  · cases possible
  · rename_i unfinished
    exact ⟨Bool.eq_false_of_not_eq_true unfinished, Option.map_eq_none_iff.mp possible⟩

end AtRest

/-! ### What callers can rely on -/

/-- Who asked for a shutdown during a run was cancelled or has returned. -/
def AllReturned (past : List Moment) : Prop :=
  ∀ before moment after id, past = before ++ moment :: after → moment.action.asks? = some id →
    (∃ effects, ⟨.cancelWaiter id, effects⟩ ∈ after) ∨ .returned id ∈ effectsOf after

/-- Who asked for a shutdown during a run was cancelled, has returned or has failed. -/
def NobodyWaits (past : List Moment) : Prop :=
  ∀ before moment after id, past = before ++ moment :: after → moment.action.asks? = some id →
    (∃ effects, ⟨.cancelWaiter id, effects⟩ ∈ after) ∨ .returned id ∈ effectsOf after ∨
      ∃ failure, .thwarted id failure ∈ effectsOf after

/-- A hub that can only go on from outside, although it is closing, has no call in
flight and waits for no close. -/
structure Becalmed (hub : Hub) : Prop where
  rest : AtRest hub
  closing : hub.closing = true
  idle : hub.inFlight = 0
  returned : ∀ slot later, hub.teardown ≠ .closing slot later

/-- No wake-up is lost, after a run. -/
structure Wakeful (past : List Moment) (hub : Hub) : Prop where
  /-- A hub that is closing and has no call in flight has given the signal. -/
  signalled : hub.closing = true → hub.inFlight = 0 → hub.drained = true
  /-- A hub that is left alone cannot go on for ever. -/
  bounded : ∀ later last, History hub later last →
    (∀ moment ∈ later, moment.action.isOwn = true) → later.length ≤ hub.pending
  /-- A hub that is left alone comes to rest. -/
  rests : ∃ later last, History hub later last ∧
    (∀ moment ∈ later, moment.action.isOwn = true) ∧ AtRest last
  /-- At rest nobody waits any more. -/
  attended : Becalmed hub → NobodyWaits past
  /-- At rest the hub is closed and all callers have returned, if no close was
  cancelled from inside and the first grace is a time of a clock. -/
  finished : Becalmed hub → Unhindered past → hub.lifecycle = .closed ∧ AllReturned past
  /-- Once a close was cancelled from inside, the hub is shutting down for ever, closes
  no other channel, and lets no caller return. -/
  halted : CloseCancelled past → hub.lifecycle = .shuttingDown ∧ ∀ later last,
    History hub later last → last.lifecycle = .shuttingDown ∧ closings (effectsOf later) = [] ∧
      ∀ id, .returned id ∉ effectsOf later
  /-- If the first grace is no time of a clock, no channel is closed unless somebody
  demands it, and the hub is not closed. -/
  untimely : ∀ grace since, FirstShutdown past (some grace) since →
    Grace.beyond ≤ grace.seconds → (∀ id told, ⟨.shutdownNow id, told⟩ ∉ past) →
      hub.lifecycle = .shuttingDown ∧ closings (effectsOf past) = []

/-- Who still waits at rest could go on, so nobody does. -/
theorem History.nobodyWaits {rules : RuleTable} {limits : Limits} {past : List Moment} {hub : Hub}
    (ran : History (fresh rules limits) past hub) (calm : Becalmed hub) : NobodyWaits past := by
  intro before moment after id split asks
  subst split
  obtain ⟨middle, -, onward⟩ := ran.split
  obtain ⟨next, stepped, later⟩ := onward.uncons
  obtain ⟨waiter, joined⟩ := (stepped_of_step stepped).exists_waiter asks
  rcases later.attends joined with still | left
  · have drained := ran.signalled calm.closing calm.idle
    obtain ⟨unfinished, whole⟩ := calm.rest.not_settled still
    obtain ⟨ahead, behind, entries, -⟩ := List.lookup_eq_some_iff.mp still
    have asked := ran.concerted.attended (id, waiter) (by simp [entries])
    rcases calm.rest.settled ran.concerted drained calm.returned asked with ended | ⟨abort, ended⟩
    · cases unfinished.symm.trans ended
    · cases whole.symm.trans ended
  · exact left

/-- A becalmed hub that nothing has hindered is closed. -/
theorem History.closed_of_becalmed {rules : RuleTable} {limits : Limits} {past : List Moment}
    {hub : Hub} (ran : History (fresh rules limits) past hub) (calm : Becalmed hub)
    (unhindered : Unhindered past) : hub.lifecycle = .closed := by
  have drained := ran.signalled calm.closing calm.idle
  have ended : ∀ waiter, hub.isAsked waiter → hub.teardown = .done := by
    intro waiter asked
    rcases calm.rest.settled ran.concerted drained calm.returned asked with ended | ⟨abort, ended⟩
    · exact ran.concerted.teardown_of_isOver ended
    · cases (ran.abort?_eq_none unhindered waiter).symm.trans ended
  have finished : hub.teardown = .done := by
    rcases ran.concerted.begun calm.closing with begun | begun
    · exact ended .drain begun
    · exact ended .teardown begun
  exact lifecycle_eq_closed_iff.mpr (ran.orderly.closed.mpr finished)

/-- No wake-up of a hub is lost. -/
theorem History.wakeful {rules : RuleTable} {limits : Limits} {past : List Moment} {hub : Hub}
    (ran : History (fresh rules limits) past hub) : Wakeful past hub := by
  refine ⟨ran.signalled, ?_, exists_atRest hub, ran.nobodyWaits, ?_, ran.halted, ?_⟩
  · intro later last onward alone
    exact Nat.le_of_add_right_le (onward.length_le_pending alone)
  · intro calm unhindered
    refine ⟨ran.closed_of_becalmed calm unhindered, ?_⟩
    intro before moment after id split asks
    rcases ran.nobodyWaits calm before moment after id split asks with
      cancelled | returned | ⟨failure, failed⟩
    · exact Or.inl cancelled
    · exact Or.inr returned
    · refine absurd ?_ (ran.not_thwarted unhindered id failure)
      subst split
      simp [failed]
  · intro grace since first beyond undemanded
    have untouched := ran.teardown_of_untimely first beyond undemanded
    refine ⟨?_, ran.closings_of_unbegun (by rw [untouched]; rfl)⟩
    exact ran.orderly.shuttingDown (ran.closing_of_first first) (by rw [untouched]; simp)

/-- A hub at rest after its one call was answered during a shutdown, whose first
caller had given up. -/
theorem wakeful_after_cancelled_shutdown :
    ∃ rules limits past hub,
      History (fresh rules limits) past hub ∧ Becalmed hub ∧ .returned "c" ∈ effectsOf past ∧
        Wakeful past hub := by
  have ran : History (fresh .empty ⟨1, 1, by decide, by decide⟩)
      ([] ++ [⟨.begin "a" .unaryUnary "get" .null none, _⟩] ++ [⟨.shutdown "b" none, _⟩] ++
        [⟨.drainStarts, _⟩] ++ [⟨.shutdown "c" none, _⟩] ++ [⟨.cancelWaiter "b", _⟩] ++
        [⟨.respond "a" .null, _⟩] ++ [⟨.drainWakes, _⟩] ++ [⟨.drainGoesOn, _⟩] ++
        [⟨.teardownStarts, _⟩] ++ [⟨.closeReturns none, _⟩] ++ [⟨.drainReturns, _⟩] ++
        [⟨.waiterReturns "c", _⟩]) _ :=
    .next (.next (.next (.next (.next (.next (.next (.next (.next (.next (.next (.next .begin rfl)
      rfl) rfl) rfl) rfl) rfl) rfl) rfl) rfl) rfl) rfl) rfl
  refine ⟨_, _, _, _, ran, ⟨?_, rfl, rfl, nofun⟩, by simp, ran.wakeful⟩
  intro action own
  cases action <;> first | rfl | cases own

/-- The first of two channels is cancelled while it is closed.  Nobody can go on, no
close is outstanding, and yet the hub is not closed: the second channel stays open, and
the caller has failed. -/
theorem shutting_down_after_cancelled_close :
    ∃ rules limits past hub,
      History (fresh rules limits) past hub ∧ Becalmed hub ∧ hub.pool.size = 2 ∧
        closings (effectsOf past) = [0] ∧ .thwarted "c" .cancelled ∈ effectsOf past ∧
        hub.lifecycle = .shuttingDown := by
  have ran : History (fresh .empty ⟨2, 1, by decide, by decide⟩)
      ([] ++ [⟨.begin "a" .unaryUnary "get" .null none, _⟩] ++
        [⟨.begin "b" .unaryUnary "get" .null none, _⟩] ++ [⟨.respond "a" .null, _⟩] ++
        [⟨.respond "b" .null, _⟩] ++ [⟨.shutdownNow "c", _⟩] ++ [⟨.teardownStarts, _⟩] ++
        [⟨.closeReturns (some .cancelled), _⟩] ++ [⟨.waiterReturns "c", _⟩]) _ :=
    .next (.next (.next (.next (.next (.next (.next (.next .begin rfl) rfl) rfl) rfl) rfl) rfl)
      rfl) rfl
  refine ⟨_, _, _, _, ran, ⟨?_, rfl, rfl, nofun⟩, rfl, rfl, by simp [Abort.failure], rfl⟩
  intro action own
  cases action <;> first | rfl | cases own

/-- A hub without channels is shut down with a grace that is no time of a clock.  Nobody
can go on, and it is not closed either. -/
theorem shutting_down_after_untimely_grace :
    ∃ rules limits past hub,
      History (fresh rules limits) past hub ∧ Becalmed hub ∧ hub.pool.size = 0 ∧
        .thwarted "q" .timeTooLong ∈ effectsOf past ∧ hub.lifecycle = .shuttingDown := by
  have ran : History (fresh .empty ⟨1, 1, by decide, by decide⟩)
      ([] ++ [⟨.shutdown "q" (some ⟨((2 ^ 128) ^ 8 : Nat), "2 ^ 1024"⟩), _⟩] ++
        [⟨.drainStarts, _⟩] ++ [⟨.waiterReturns "q", _⟩]) _ :=
    .next (.next (.next .begin rfl) rfl) rfl
  refine ⟨_, _, _, _, ran, ⟨?_, rfl, rfl, nofun⟩, rfl, by simp [Abort.failure], rfl⟩
  intro action own
  cases action <;> first | rfl | cases own

end Hub

end AffinityPool
