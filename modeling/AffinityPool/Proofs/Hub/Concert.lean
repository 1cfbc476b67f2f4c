/-
Module: AffinityPool.Proofs.Hub.Concert
Purpose: The drain, the teardown and the callers of a shutdown work together: nobody waits for a job
  that was not asked for, and nobody leaves unless it is cancelled or what it waits for has come.
Main exports:
  Action.asks?, Hub.Concerted, Hub.History.concerted, Hub.History.attends,
  Hub.Stepped.isOver_of_returned, Hub.Stepped.abort_of_thwarted
-/
import AffinityPool.Proofs.Hub.Life
import AffinityPool.Proofs.Ledger.Agreement

namespace AffinityPool

/-- The caller who asks for a shutdown of either kind. -/
def Action.asks? : Action → Option CallId
  | .shutdown id _ | .shutdownNow id => some id
  | _ => none

/-- The action that asks for a shutdown is about no call. -/
theorem Action.call?_of_asks {action : Action} {id : CallId} (asks : action.asks? = some id) :
    action.call? = none := by
  cases action <;> first | rfl | cases asks

namespace Hub

/-! ### The background jobs and those who wait for them -/

/-- Whether the job that a caller waits for has been asked for. -/
def isAsked (hub : Hub) : Waiter → Prop
  | .drain => hub.drain ≠ .absent
  | .teardown => hub.teardown ≠ .absent

/-- The background jobs and the callers of a shutdown work together: closing begins
with a job, the drain ends as the teardown does, and nobody waits for a job that has
not been asked for. -/
structure Concerted (hub : Hub) : Prop where
  begun : hub.closing = true → hub.drain ≠ .absent ∨ hub.teardown ≠ .absent
  joining : hub.drain = .joining → hub.teardown ≠ .absent
  done : hub.drain = .done → hub.teardown = .done
  aborted : hub.drain = .aborted .closeCancelled → ∃ left, hub.teardown = .aborted left
  attended : ∀ entry ∈ hub.waiters, hub.isAsked entry.2

/-- Nobody waits for a fresh hub. -/
theorem concerted_fresh (rules : RuleTable) (limits : Limits) :
    Concerted (fresh rules limits) where
  begun := by
    intro closing
    cases closing
  joining := by
    intro joining
    cases joining
  done := by
    intro finished
    cases finished
  aborted := nofun
  attended := by
    intro entry member
    cases member

/-- Once channels are asked to be closed, that job is there. -/
theorem teardown_requestTeardown_ne (hub : Hub) : hub.requestTeardown.teardown ≠ .absent := by
  unfold requestTeardown
  split
  · simp
  · assumption

@[simp] theorem waiters_requestTeardown (hub : Hub) :
    hub.requestTeardown.waiters = hub.waiters := by
  unfold requestTeardown
  split <;> rfl

/-- Nobody asks a teardown again that has been aborted. -/
theorem requestTeardown_of_aborted {hub : Hub} {left : List Nat}
    (aborted : hub.teardown = .aborted left) : hub.requestTeardown.teardown = .aborted left := by
  unfold requestTeardown
  simp [aborted]

/-- Going on to the next channel lets nobody return. -/
theorem waiters_closeNext (hub : Hub) (later : List Nat) :
    (hub.closeNext later).1.waiters = hub.waiters := by
  cases later <;> rfl

/-- Once channels close, that job is there. -/
theorem teardown_closeNext_ne (hub : Hub) (later : List Nat) :
    (hub.closeNext later).1.teardown ≠ .absent := by
  cases later <;> simp [closeNext]

namespace Concerted

variable {hub next : Hub}

/-- What moves no background job keeps jobs and callers together. -/
theorem sameLife (concerted : Concerted hub) (same : SameLife hub next) : Concerted next where
  begun := by
    rw [same.closing, same.drain, same.teardown]
    exact concerted.begun
  joining := by
    rw [same.drain, same.teardown]
    exact concerted.joining
  done := by
    rw [same.drain, same.teardown]
    exact concerted.done
  aborted := by
    rw [same.drain, same.teardown]
    exact concerted.aborted
  attended := by
    intro entry member
    rw [same.waiters] at member
    have asked := concerted.attended entry member
    cases waiter : entry.2 with
    | drain =>
        rw [waiter] at asked
        rw [isAsked, same.drain]
        exact asked
    | teardown =>
        rw [waiter] at asked
        rw [isAsked, same.teardown]
        exact asked

/-- Callers come and go while the jobs are as they were or have been asked for. -/
theorem attend (concerted : Concerted hub) {asking : Hub}
    (drain : hub.drain ≠ .absent → asking.drain ≠ .absent)
    (teardown : hub.teardown ≠ .absent → asking.teardown ≠ .absent)
    (waiters : ∀ entry ∈ asking.waiters, entry ∈ hub.waiters ∨ asking.isAsked entry.2) :
    ∀ entry ∈ asking.waiters, asking.isAsked entry.2 := by
  intro entry member
  rcases waiters entry member with before | now
  · have asked := concerted.attended entry before
    cases waiter : entry.2 with
    | drain =>
        rw [waiter] at asked
        exact drain asked
    | teardown =>
        rw [waiter] at asked
        exact teardown asked
  · exact now

/-- The drain asks for the teardown and waits for it. -/
theorem join (concerted : Concerted hub) :
    Concerted (requestTeardown { hub with drain := .joining }) where
  begun := fun _ => Or.inr (teardown_requestTeardown_ne _)
  joining := fun _ => teardown_requestTeardown_ne _
  done := by
    rw [drain_requestTeardown]
    intro finished
    cases finished
  aborted := by
    rw [drain_requestTeardown]
    nofun
  attended := by
    refine concerted.attend ?_ (fun _ => teardown_requestTeardown_ne _) ?_
    · rw [drain_requestTeardown]
      simp
    · rw [waiters_requestTeardown]
      exact fun entry member => Or.inl member

/-- The teardown goes on to a channel or to its end. -/
theorem closeNext (concerted : Concerted hub) (later : List Nat)
    (unfinished : hub.teardown ≠ .done) (whole : ∀ left, hub.teardown ≠ .aborted left) :
    Concerted (hub.closeNext later).1 where
  begun := fun _ => Or.inr (teardown_closeNext_ne hub later)
  joining := fun _ => teardown_closeNext_ne hub later
  done := by
    rw [(life_closeNext hub later).2.1]
    exact fun finished => absurd (concerted.done finished) unfinished
  aborted := by
    rw [(life_closeNext hub later).2.1]
    intro thwarted
    obtain ⟨left, aborted⟩ := concerted.aborted thwarted
    exact absurd aborted (whole left)
  attended := by
    refine concerted.attend ?_ (fun _ => teardown_closeNext_ne hub later) ?_
    · rw [(life_closeNext hub later).2.1]
      exact id
    · rw [waiters_closeNext]
      exact fun entry member => Or.inl member

/-- The drain goes on, and does not end. -/
theorem drains (concerted : Concerted hub) {drain : Drain} (begun : drain ≠ .absent)
    (waits : drain ≠ .joining) (unfinished : drain ≠ .done)
    (whole : drain ≠ .aborted .closeCancelled) : Concerted { hub with drain } where
  begun := fun _ => Or.inl begun
  joining := fun joining => absurd joining waits
  done := fun finished => absurd finished unfinished
  aborted := fun aborted => absurd aborted whole
  attended := concerted.attend (fun _ => begun) id fun _ member => Or.inl member

/-- A caller leaves. -/
theorem leave (concerted : Concerted hub) (id : CallId) : Concerted (hub.dropWaiter id) where
  begun := concerted.begun
  joining := concerted.joining
  done := concerted.done
  aborted := concerted.aborted
  attended := fun entry member => concerted.attended entry (List.mem_filter.mp member).1

/-- What happens in the background keeps jobs and callers together. -/
theorem background (concerted : Concerted hub) {action : Action} {effects : List Effect}
    (background : Background hub action next effects) : Concerted next := by
  cases background with
  | shutdownFirst fresh idle =>
      refine ⟨fun _ => Or.inl (by simp), by simp, by simp, by simp, ?_⟩
      refine concerted.attend (by simp) id ?_
      intro entry member
      rcases List.mem_append.mp member with before | now
      · exact Or.inl before
      · rw [List.mem_singleton.mp now]
        exact Or.inr (by simp [isAsked])
  | shutdownAgain fresh started =>
      refine ⟨concerted.begun, concerted.joining, concerted.done, concerted.aborted, ?_⟩
      refine concerted.attend id id ?_
      intro entry member
      rcases List.mem_append.mp member with before | now
      · exact Or.inl before
      · rw [List.mem_singleton.mp now]
        exact Or.inr started
  | shutdownNow fresh =>
      refine ⟨fun _ => Or.inr (teardown_requestTeardown_ne _),
        fun _ => teardown_requestTeardown_ne _, ?_, ?_, ?_⟩
      · rw [drain_requestTeardown]
        intro finished
        have complete := concerted.done finished
        unfold requestTeardown
        simp [complete]
      · rw [drain_requestTeardown]
        intro thwarted
        obtain ⟨left, aborted⟩ := concerted.aborted thwarted
        exact ⟨left, requestTeardown_of_aborted aborted⟩
      · refine concerted.attend ?_ (fun _ => teardown_requestTeardown_ne _) ?_
        · rw [drain_requestTeardown]
          exact id
        · intro entry member
          rw [waiters_requestTeardown] at member
          rcases List.mem_append.mp member with before | now
          · exact Or.inl before
          · rw [List.mem_singleton.mp now]
            exact Or.inr (teardown_requestTeardown_ne _)
  | waiterCancelled waits => exact concerted.leave _
  | waiterReturned waits finished => exact concerted.leave _
  | waiterThwarted waits aborted => exact concerted.leave _
  | ticked forward =>
      exact ⟨concerted.begun, concerted.joining, concerted.done, concerted.aborted,
        concerted.attended⟩
  | drainWentOn resuming => exact concerted.join
  | @drainStarted grace scheduled =>
      rcases hub.startDrain_eq grace with ⟨deadline, stands⟩ | ⟨shown, stands⟩ | stands <;>
        · rw [stands]
          exact concerted.drains (by simp) (by simp) (by simp) (by simp)
  | drainWoken | drainExpired =>
      exact concerted.drains (by simp) (by simp) (by simp) (by simp)
  | drainReturned joining finished =>
      refine ⟨fun _ => Or.inl (by simp), by simp, fun _ => finished, by simp, ?_⟩
      exact concerted.attend (by simp) id fun entry member => Or.inl member
  | drainThwarted joining aborted =>
      refine ⟨fun _ => Or.inl (by simp), by simp, by simp, fun _ => ⟨_, aborted⟩, ?_⟩
      exact concerted.attend (by simp) id fun entry member => Or.inl member
  | teardownStarted scheduled =>
      exact concerted.closeNext _ (by rw [scheduled]; simp) (by rw [scheduled]; simp)
  | closeReturned closing survived =>
      exact concerted.closeNext _ (by rw [closing]; simp) (by rw [closing]; simp)
  | closeCancelled closing =>
      have begun : hub.teardown ≠ .absent := by rw [closing]; simp
      refine ⟨fun _ => Or.inr (by simp), by simp, ?_, fun _ => ⟨_, rfl⟩, ?_⟩
      · intro finished
        rw [concerted.done finished] at closing
        cases closing
      · exact concerted.attend id (fun _ => by simp) fun entry member => Or.inl member

/-- What somebody has waited for is over when the teardown is done. -/
theorem teardown_of_isOver (concerted : Concerted hub) {waiter : Waiter}
    (finished : hub.isOver waiter = true) : hub.teardown = .done := by
  cases waiter with
  | drain => exact concerted.done (of_decide_eq_true finished)
  | teardown => exact of_decide_eq_true finished

end Concerted

/-- After every run jobs and callers stand together. -/
theorem History.concerted {rules : RuleTable} {limits : Limits} {past : List Moment} {hub : Hub}
    (ran : History (fresh rules limits) past hub) : Concerted hub := by
  induction ran with
  | begin => exact concerted_fresh rules limits
  | next earlier stepped ih =>
      rcases (stepped_of_step stepped).sameLife_or_background with same | background
      · exact ih.sameLife same
      · exact ih.background background

/-! ### Callers that wait -/

/-- A caller of a shutdown waits until it is cancelled, returns or fails. -/
theorem Stepped.attends {hub next : Hub} {action : Action} {effects : List Effect}
    (stepped : Stepped hub action next effects) {id : CallId} {waiter : Waiter}
    (waits : hub.waiters.lookup id = some waiter) :
    next.waiters.lookup id = some waiter ∨ action = .cancelWaiter id ∨
      .returned id ∈ effects ∨ ∃ failure, .thwarted id failure ∈ effects := by
  have joined : ∀ {other : CallId} {added : Waiter}, hub.waiters.lookup other = none →
      (hub.waiters ++ [(other, added)]).lookup id = some waiter := by
    intro other added fresh
    rw [← Ledger.put_of_unknown added fresh]
    refine (Ledger.get?_put ..).trans ?_
    rw [if_neg]
    · exact waits
    · rintro rfl
      rw [fresh] at waits
      cases waits
  have left : ∀ {other : CallId}, id ≠ other →
      (hub.dropWaiter other).waiters.lookup id = some waiter := by
    intro other differs
    refine (Ledger.get?_drop hub.waiters other id).trans ?_
    rw [if_neg differs]
    exact waits
  rcases stepped.sameLife_or_background with same | background
  · rw [same.waiters]
    exact Or.inl waits
  · cases background with
    | shutdownFirst fresh idle => exact Or.inl (joined fresh)
    | shutdownAgain fresh started => exact Or.inl (joined fresh)
    | shutdownNow fresh =>
        rw [waiters_requestTeardown]
        exact Or.inl (joined fresh)
    | @waiterCancelled other _ going =>
        by_cases same : id = other
        · exact Or.inr (Or.inl (by rw [same]))
        · exact Or.inl (left same)
    | @waiterReturned other _ going finished =>
        by_cases same : id = other
        · exact Or.inr (Or.inr (Or.inl (by rw [same]; simp)))
        · exact Or.inl (left same)
    | @waiterThwarted other _ abort going aborted =>
        by_cases same : id = other
        · exact Or.inr (Or.inr (Or.inr ⟨abort.failure, by rw [same]; simp⟩))
        · exact Or.inl (left same)
    | drainWentOn =>
        rw [waiters_requestTeardown]
        exact Or.inl waits
    | teardownStarted scheduled =>
        rw [startTeardown, waiters_closeNext]
        exact Or.inl waits
    | closeReturned closing =>
        rw [waiters_closeNext]
        exact Or.inl waits
    | _ => exact Or.inl waits

/-- A caller that asks for a shutdown waits for it. -/
theorem Stepped.exists_waiter {hub next : Hub} {action : Action} {effects : List Effect}
    (stepped : Stepped hub action next effects) {id : CallId}
    (asks : action.asks? = some id) : ∃ waiter, next.waiters.lookup id = some waiter := by
  have joins : ∀ {waiter : Waiter}, hub.waiters.lookup id = none →
      (hub.waiters ++ [(id, waiter)]).lookup id = some waiter := by
    intro waiter fresh
    rw [← Ledger.put_of_unknown waiter fresh]
    exact Ledger.get?_put_self hub.waiters id waiter
  rcases stepped.carries_or_background with carries | background
  · obtain ⟨other, about⟩ := carries.about
    rw [Action.call?_of_asks asks] at about
    cases about
  · cases background with
    | shutdownFirst fresh idle =>
        cases asks
        exact ⟨.drain, joins fresh⟩
    | shutdownAgain fresh started =>
        cases asks
        exact ⟨.drain, joins fresh⟩
    | shutdownNow fresh =>
        cases asks
        rw [waiters_requestTeardown]
        exact ⟨.teardown, joins fresh⟩
    | _ => cases asks

/-- A caller of a shutdown waits, was cancelled, has returned or has failed. -/
theorem History.attends {start hub : Hub} {past : List Moment} (ran : History start past hub)
    {id : CallId} {waiter : Waiter} (waits : start.waiters.lookup id = some waiter) :
    hub.waiters.lookup id = some waiter ∨ (∃ effects, ⟨.cancelWaiter id, effects⟩ ∈ past) ∨
      .returned id ∈ effectsOf past ∨ ∃ failure, .thwarted id failure ∈ effectsOf past := by
  induction ran with
  | begin => exact Or.inl waits
  | @next past hub after action effects earlier stepped ih =>
      rcases ih with still | ⟨shown, cancelled⟩ | returned | ⟨failure, failed⟩
      · rcases (stepped_of_step stepped).attends still with
          onward | rfl | returns | ⟨failure, fails⟩
        · exact Or.inl onward
        · exact Or.inr (Or.inl ⟨effects, by simp⟩)
        · have here := (mem_withoutNotes rfl).mp returns
          exact Or.inr (Or.inr (Or.inl (by simp [here])))
        · have here := (mem_withoutNotes rfl).mp fails
          exact Or.inr (Or.inr (Or.inr ⟨failure, by simp [here]⟩))
      · exact Or.inr (Or.inl ⟨shown, List.mem_append_left _ cancelled⟩)
      · exact Or.inr (Or.inr (Or.inl (by simp [returned])))
      · exact Or.inr (Or.inr (Or.inr ⟨failure, by simp [failed]⟩))

/-! ### Callers that return or fail -/

/-- A call that exits tells nothing of a shutdown. -/
theorem not_isOfShutdown_of_exitPlaced {hub : Hub} {id : CallId} {slot : Nat} {outcome : Outcome}
    {effect : Effect} (told : effect ∈ (hub.exitPlaced id slot outcome).2) :
    effect.isOfShutdown = false := by
  obtain ⟨shown, exits⟩ := exitPlaced_effects hub id slot outcome
  rw [exits, List.mem_singleton] at told
  rw [told]
  rfl

/-- A call that asks for a channel tells nothing of a shutdown. -/
theorem Dispatching.not_isOfShutdown {hub next : Hub} {id : CallId} {call : Call}
    {opening : Opening} {supply : Option Failure} {effects : List Effect}
    (dispatching : Dispatching hub id call opening supply next effects) {effect : Effect}
    (told : effect ∈ effects) : effect.isOfShutdown = false := by
  cases dispatching with
  | unreadable unread =>
      rw [List.mem_singleton.mp told]
      rfl
  | unsupplied read unbound saturated supplied =>
      simp only [List.mem_cons, List.not_mem_nil, or_false] at told
      rcases told with rfl | rfl <;> rfl
  | placed read placing =>
      cases placing <;>
        simp only [List.mem_append, List.mem_cons, List.not_mem_nil, or_false, false_or] at told
      · rw [told]
        rfl
      · rw [told]
        rfl
      · rcases told with rfl | rfl <;> rfl

/-- Only the background makes known what a shutdown does. -/
theorem Stepped.background_of_told {hub next : Hub} {action : Action} {effects : List Effect}
    (stepped : Stepped hub action next effects) {effect : Effect} (told : effect ∈ effects)
    (late : effect.isOfShutdown = true) : Background hub action next effects := by
  cases stepped with
  | background background => exact background
  | begins fresh unclosed starts dispatching =>
      rcases List.mem_cons.mp told with rfl | member
      · cases late
      · cases (dispatching.not_isOfShutdown member).symm.trans late
  | peeked live peeking dispatching => cases (dispatching.not_isOfShutdown told).symm.trans late
  | completed live waiting completes =>
      cases (not_isOfShutdown_of_exitPlaced told).symm.trans late
  | left live leaves => cases (not_isOfShutdown_of_exitPlaced told).symm.trans late
  | resumed live paused => cases told
  | _ =>
      rw [List.mem_singleton.mp told] at late
      cases late

/-- A caller returns when what it has waited for is over. -/
theorem Stepped.isOver_of_returned {hub next : Hub} {action : Action} {effects : List Effect}
    (stepped : Stepped hub action next effects) {id : CallId} (returns : .returned id ∈ effects) :
    next = hub.dropWaiter id ∧ ∃ waiter, hub.isOver waiter = true := by
  have goesOn : ∀ later, .returned id ∉ withoutNotes (hub.closeNext later).2 := by
    intro later member
    rw [closeNext_effects] at member
    obtain ⟨slot, -, same⟩ := List.mem_map.mp member
    cases same
  cases stepped.background_of_told returns rfl with
  | waiterReturned waits finished =>
      cases List.mem_singleton.mp returns
      exact ⟨rfl, _, finished⟩
  | teardownStarted scheduled => exact absurd returns (goesOn _)
  | closeReturned closing survived => exact absurd returns (goesOn _)
  | waiterThwarted waits aborted => cases List.mem_singleton.mp returns
  | _ => cases returns

/-- A caller fails when what it has waited for was aborted. -/
theorem Stepped.abort_of_thwarted {hub next : Hub} {action : Action} {effects : List Effect}
    (stepped : Stepped hub action next effects) {id : CallId} {failure : Failure}
    (fails : .thwarted id failure ∈ effects) :
    next = hub.dropWaiter id ∧
      ∃ waiter abort, hub.abort? waiter = some abort ∧ failure = abort.failure := by
  have goesOn : ∀ later, .thwarted id failure ∉ withoutNotes (hub.closeNext later).2 := by
    intro later member
    rw [closeNext_effects] at member
    obtain ⟨slot, -, same⟩ := List.mem_map.mp member
    cases same
  cases stepped.background_of_told fails rfl with
  | waiterThwarted waits aborted =>
      cases List.mem_singleton.mp fails
      exact ⟨rfl, _, _, aborted, rfl⟩
  | teardownStarted scheduled => exact absurd fails (goesOn _)
  | closeReturned closing survived => exact absurd fails (goesOn _)
  | waiterReturned waits finished => cases List.mem_singleton.mp fails
  | _ => cases fails

end Hub

end AffinityPool
