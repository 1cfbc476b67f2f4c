/-
Module: AffinityPool.Proofs.Hub.Abort
Purpose: Why a background job ends before its work is done, and that it stays so.  There are two
  causes: a close that is cancelled from inside, and a first grace that is no time of a clock.
Main exports:
  CloseCancelled, Unhindered, Hub.History.aborted_iff, Hub.History.halted,
  Hub.History.teardown_of_untimely, Hub.History.not_thwarted
-/
import AffinityPool.Proofs.Hub.Concert
import AffinityPool.Proofs.Hub.Drain

namespace AffinityPool

/-- In a run the close of a channel was cancelled from inside. -/
def CloseCancelled (past : List Moment) : Prop :=
  ∃ effects, ⟨.closeReturns (some .cancelled), effects⟩ ∈ past

/-- Nothing in a run aborts a background job. -/
structure Unhindered (past : List Moment) : Prop where
  uncancelled : ¬CloseCancelled past
  clocked : ∀ grace since, FirstShutdown past grace since → Clocked grace

/-- What hinders no run hinders none of its beginnings. -/
theorem Unhindered.of_append {before after : List Moment}
    (unhindered : Unhindered (before ++ after)) : Unhindered before where
  uncancelled := by
    rintro ⟨effects, member⟩
    exact unhindered.uncancelled ⟨effects, List.mem_append_left _ member⟩
  clocked := by
    intro grace since first
    exact unhindered.clocked grace (since ++ after) (first.append after)

namespace Hub

variable {rules : RuleTable} {limits : Limits} {start hub next : Hub} {past : List Moment}
  {action : Action} {effects : List Effect}

/-! ### A close that is cancelled from inside -/

/-- A teardown that was aborted stays so. -/
theorem Stepped.teardown_of_aborted (stepped : Stepped hub action next effects) {left : List Nat}
    (aborted : hub.teardown = .aborted left) : next.teardown = .aborted left := by
  rcases stepped.sameLife_or_background with same | background
  · rw [same.teardown, aborted]
  · cases background with
    | shutdownNow | drainWentOn => exact requestTeardown_of_aborted aborted
    | teardownStarted scheduled =>
        rw [aborted] at scheduled
        cases scheduled
    | closeReturned closing | closeCancelled closing =>
        rw [aborted] at closing
        cases closing
    | _ => exact aborted

theorem teardown_requestTeardown_ne_aborted {left : List Nat}
    (whole : hub.teardown ≠ .aborted left) : hub.requestTeardown.teardown ≠ .aborted left := by
  rcases teardown_requestTeardown hub with same | ⟨-, scheduled⟩
  · rw [same]
    exact whole
  · rw [scheduled]
    simp

/-- Only a close that is cancelled from inside aborts a teardown. -/
theorem Stepped.cancels_of_aborted (stepped : Stepped hub action next effects) {left : List Nat}
    (aborted : next.teardown = .aborted left) :
    hub.teardown = .aborted left ∨ action = .closeReturns (some .cancelled) := by
  by_contra neither
  obtain ⟨whole, other⟩ := not_or.mp neither
  refine absurd aborted ?_
  have goesOn : ∀ later, (hub.closeNext later).1.teardown ≠ .aborted left := by
    intro later
    cases later <;> simp [closeNext]
  rcases stepped.sameLife_or_background with same | background
  · rw [same.teardown]
    exact whole
  · cases background with
    | shutdownNow | drainWentOn => exact teardown_requestTeardown_ne_aborted whole
    | teardownStarted scheduled => exact goesOn _
    | closeReturned closing => exact goesOn _
    | closeCancelled closing => exact absurd rfl other
    | _ => exact whole

/-- The cancellation of a close aborts the teardown at once. -/
theorem aborted_of_cancelled (stepped : hub.step (.closeReturns (some .cancelled)) =
    some (next, effects)) : ∃ left, next.teardown = .aborted left := by
  have background := background_of_step rfl stepped
  generalize withoutNotes effects = told at background
  cases background with
  | closeReturned closing survived => exact absurd rfl survived
  | closeCancelled closing => exact ⟨_, rfl⟩

/-- A teardown is aborted exactly if a close was cancelled from inside. -/
theorem History.aborted_iff (ran : History (fresh rules limits) past hub) :
    (∃ left, hub.teardown = .aborted left) ↔ CloseCancelled past := by
  induction ran with
  | begin =>
      constructor
      · rintro ⟨left, aborted⟩
        cases aborted
      · rintro ⟨effects, member⟩
        cases member
  | @next past hub next action effects earlier stepped ih =>
      constructor
      · rintro ⟨left, aborted⟩
        rcases (stepped_of_step stepped).cancels_of_aborted aborted with before | rfl
        · obtain ⟨told, member⟩ := ih.mp ⟨left, before⟩
          exact ⟨told, List.mem_append_left _ member⟩
        · exact ⟨effects, by simp⟩
      · rintro ⟨told, member⟩
        rcases List.mem_append.mp member with before | now
        · obtain ⟨left, aborted⟩ := ih.mpr ⟨told, before⟩
          exact ⟨left, (stepped_of_step stepped).teardown_of_aborted aborted⟩
        · cases List.mem_singleton.mp now
          exact aborted_of_cancelled stepped

theorem History.teardown_of_aborted (ran : History start past hub) {left : List Nat}
    (aborted : start.teardown = .aborted left) : hub.teardown = .aborted left := by
  induction ran with
  | begin => exact aborted
  | next earlier stepped ih => exact (stepped_of_step stepped).teardown_of_aborted ih

/-- From the cancellation of a close on, a hub is shutting down for ever: it closes no
other channel, and no caller of a shutdown returns. -/
theorem History.halted (ran : History (fresh rules limits) past hub)
    (cancelled : CloseCancelled past) :
    hub.lifecycle = .shuttingDown ∧ ∀ later last, History hub later last →
      last.lifecycle = .shuttingDown ∧ closings (effectsOf later) = [] ∧
        ∀ id, .returned id ∉ effectsOf later := by
  obtain ⟨left, aborted⟩ := ran.aborted_iff.mpr cancelled
  have shutting : ∀ {later last}, History hub later last → last.lifecycle = .shuttingDown := by
    intro later last onward
    have orderly := (ran.append onward).orderly
    have stopped := onward.teardown_of_aborted aborted
    exact orderly.shuttingDown (orderly.tearing (by rw [stopped]; simp)) (by rw [stopped]; simp)
  refine ⟨shutting .begin, ?_⟩
  intro later last onward
  refine ⟨shutting onward, ?_, ?_⟩
  · obtain ⟨-, taken⟩ := onward.closings_of_begun (by rw [aborted]; rfl)
    rw [onward.teardown_of_aborted aborted, aborted] at taken
    exact List.append_left_eq_self.mp taken
  · intro id returned
    induction onward with
    | begin => cases returned
    | @next later middle last action effects earlier stepped ih =>
        rw [effectsOf_append, effectsOf_cons, effectsOf_nil, List.append_nil] at returned
        rcases List.mem_append.mp returned with before | now
        · exact ih before
        · have shown := (mem_withoutNotes rfl).mpr now
          obtain ⟨-, waiter, finished⟩ := (stepped_of_step stepped).isOver_of_returned shown
          have complete := (ran.append earlier).concerted.teardown_of_isOver finished
          rw [earlier.teardown_of_aborted aborted] at complete
          cases complete

/-! ### A grace that is no time of a clock -/

/-- Why the teardown was asked for: somebody demanded it, or the drain went on. -/
theorem History.asked_teardown (ran : History (fresh rules limits) past hub)
    (asked : hub.teardown ≠ .absent) :
    (∃ id told, ⟨.shutdownNow id, told⟩ ∈ past) ∨
      ∃ grace since, FirstShutdown past grace since ∧ Clocked grace := by
  induction ran with
  | begin => exact absurd rfl asked
  | @next past hub next action effects earlier stepped ih =>
      have kept : hub.teardown ≠ .absent →
          (∃ id told, ⟨.shutdownNow id, told⟩ ∈ past ++ [⟨action, effects⟩]) ∨
            ∃ grace since, FirstShutdown (past ++ [⟨action, effects⟩]) grace since ∧
              Clocked grace := by
        intro before
        rcases ih before with ⟨id, told, member⟩ | ⟨grace, since, first, clocked⟩
        · exact Or.inl ⟨id, told, List.mem_append_left _ member⟩
        · exact Or.inr ⟨grace, _, first.extend _, clocked⟩
      rcases (stepped_of_step stepped).sameLife_or_background with same | background
      · rw [same.teardown] at asked
        exact kept asked
      · generalize withoutNotes effects = told at background
        cases background with
        | @shutdownNow id fresh => exact Or.inl ⟨id, effects, by simp⟩
        | drainWentOn resuming =>
            have announced := earlier.draining.announced
            rw [resuming] at announced
            cases announced with
            | resuming first clocked ended => exact Or.inr ⟨_, _, first.extend _, clocked⟩
        | teardownStarted scheduled => exact kept (by rw [scheduled]; simp)
        | closeReturned closing | closeCancelled closing => exact kept (by rw [closing]; simp)
        | _ => exact kept asked

/-- If the first grace is no time of a clock, no channel is closed unless somebody
demands it. -/
theorem History.teardown_of_untimely (ran : History (fresh rules limits) past hub) {grace : Grace}
    {since : List Moment} (first : FirstShutdown past (some grace) since)
    (beyond : Grace.beyond ≤ grace.seconds)
    (undemanded : ∀ id told, ⟨.shutdownNow id, told⟩ ∉ past) :
    hub.teardown = .absent := by
  by_contra asked
  rcases ran.asked_teardown asked with ⟨id, told, member⟩ | ⟨given, since, known, clocked⟩
  · exact undemanded id told member
  · exact absurd (clocked grace (known.unique first).1) (Rat.not_lt.mpr beyond)

/-! ### A run that nothing hinders -/

/-- In a run that nothing hinders no job is aborted. -/
theorem History.abort?_eq_none (ran : History (fresh rules limits) past hub)
    (unhindered : Unhindered past) (waiter : Waiter) : hub.abort? waiter = none := by
  have whole : ∀ left, hub.teardown ≠ .aborted left := by
    intro left aborted
    exact unhindered.uncancelled (ran.aborted_iff.mp ⟨left, aborted⟩)
  have going : ∀ abort, hub.drain ≠ .aborted abort := by
    intro abort aborted
    cases abort with
    | closeCancelled =>
        obtain ⟨left, stopped⟩ := ran.concerted.aborted aborted
        exact whole left stopped
    | graceTooLong =>
        have announced := ran.draining.announced
        rw [aborted] at announced
        cases announced with
        | overflowed first beyond =>
            exact absurd (unhindered.clocked _ _ first _ rfl) (Rat.not_lt.mpr beyond)
  cases waiter with
  | drain =>
      cases drain : hub.drain with
      | aborted abort => exact absurd drain (going abort)
      | _ => simp only [abort?, drain]
  | teardown =>
      cases teardown : hub.teardown with
      | aborted left => exact absurd teardown (whole left)
      | _ => simp only [abort?, teardown]

/-- In a run that nothing hinders no caller of a shutdown fails. -/
theorem History.not_thwarted (ran : History (fresh rules limits) past hub)
    (unhindered : Unhindered past) (id : CallId) (failure : Failure) :
    .thwarted id failure ∉ effectsOf past := by
  intro fails
  induction ran with
  | begin => cases fails
  | @next past hub next action effects earlier stepped ih =>
      rw [effectsOf_append, effectsOf_cons, effectsOf_nil, List.append_nil] at fails
      rcases List.mem_append.mp fails with before | now
      · exact ih unhindered.of_append before
      · have shown := (mem_withoutNotes rfl).mpr now
        obtain ⟨-, waiter, abort, aborted, -⟩ := (stepped_of_step stepped).abort_of_thwarted shown
        rw [earlier.abort?_eq_none unhindered.of_append] at aborted
        cases aborted

end Hub

end AffinityPool
