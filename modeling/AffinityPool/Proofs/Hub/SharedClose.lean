/-
Module: AffinityPool.Proofs.Hub.SharedClose
Purpose: However many callers ask for a shutdown, the channels are closed once, one after the other,
  and every caller waits for that.
Main exports:
  CloseEvent, closeLog, closePlan, Teardown.Follows, Hub.ClosesFrom, Hub.History.follows,
  Hub.SharedClose, Hub.History.sharedClose
-/
import AffinityPool.Proofs.Hub.Concert

namespace AffinityPool

/-! ### What happens to the channels that are closed -/

/-- The closing of a channel begins, or the transport returns from it, with or
without a failure. -/
inductive CloseEvent where
  | begun (slot : Nat)
  | ended
deriving Repr, DecidableEq

/-- What an action tells about the closing of channels. -/
def Action.closeEvents : Action → List CloseEvent
  | .closeReturns _ => [.ended]
  | _ => []

/-- What a moment tells about the closing of channels.  A return comes before the
closing that it gives rise to. -/
def Moment.closeEvents (moment : Moment) : List CloseEvent :=
  moment.action.closeEvents ++ (closings moment.effects).map .begun

/-- What a run tells about the closing of channels, in order. -/
def closeLog (past : List Moment) : List CloseEvent := past.flatMap Moment.closeEvents

@[simp] theorem closeLog_nil : closeLog [] = [] := rfl

@[simp] theorem closeLog_append (before after : List Moment) :
    closeLog (before ++ after) = closeLog before ++ closeLog after := by
  simp [closeLog]

@[simp] theorem closeLog_cons (moment : Moment) (after : List Moment) :
    closeLog (moment :: after) = moment.closeEvents ++ closeLog after := by
  simp [closeLog]

/-- The closing of so many channels in the order in which they were made, each when
the one before is over. -/
def closePlan (size : Nat) : List CloseEvent :=
  (List.range size).flatMap fun slot => [.begun slot, .ended]

theorem closePlan_succ (size : Nat) :
    closePlan (size + 1) = closePlan size ++ [.begun size, .ended] := by
  simp [closePlan, List.range_succ]

/-- A smaller plan is the beginning of a larger one. -/
theorem closePlan_prefix {size other : Nat} (fewer : size ≤ other) :
    closePlan size <+: closePlan other := by
  induction fewer with
  | refl => exact List.prefix_refl _
  | step fewer ih =>
      rw [closePlan_succ]
      exact ih.trans (List.prefix_append _ _)

/-! ### A teardown that follows the plan -/

/-- How a teardown that has begun stands to the log: it follows the plan for so many
channels, and the channels left are those of the plan.  One that was aborted has
stopped behind a channel. -/
inductive Teardown.Follows (size : Nat) : Teardown → List CloseEvent → Prop where
  | closing {slot : Nat} {later : List Nat}
      (left : slot :: later = List.range' slot (size - slot)) :
      Follows size (.closing slot later) (closePlan slot ++ [.begun slot])
  | done : Follows size .done (closePlan size)
  | aborted {slot : Nat} {left : List Nat} (inside : slot < size) :
      Follows size (.aborted left) (closePlan (slot + 1))

namespace Teardown.Follows

variable {size : Nat} {teardown : Teardown} {log : List CloseEvent}

theorem isBegun (follows : Follows size teardown log) : teardown.isBegun = true := by
  cases follows <;> rfl

/-- A teardown that follows the plan has not gone beyond it. -/
theorem isPrefix (follows : Follows size teardown log) : log <+: closePlan size := by
  cases follows with
  | @closing slot later left =>
      have inside : slot < size := by
        have counted := congrArg List.length left
        simp only [List.length_cons, List.length_range'] at counted
        omega
      have onward := closePlan_prefix inside
      rw [Nat.succ_eq_add_one, closePlan_succ] at onward
      refine List.IsPrefix.trans ⟨[.ended], ?_⟩ onward
      simp
  | done => exact List.prefix_refl _
  | aborted inside => exact closePlan_prefix inside

end Teardown.Follows

namespace Hub

/-- Going on from a channel of the plan. -/
theorem follows_closeNext (hub : Hub) {size slot : Nat} (inside : slot ≤ size) :
    (hub.closeNext (List.range' slot (size - slot))).1.teardown.Follows size
      (closePlan slot ++
        (closings (hub.closeNext (List.range' slot (size - slot))).2).map .begun) := by
  cases left : size - slot with
  | zero =>
      have finished : slot = size := by omega
      subst finished
      rw [List.range'_zero]
      exact (List.append_nil (closePlan slot)).symm ▸ Teardown.Follows.done
  | succ others =>
      rw [List.range'_succ]
      refine Teardown.Follows.closing ?_
      rw [left, List.range'_succ]

/-! ### One step -/

/-- The teardown starts with the first of all channels there are. -/
theorem follows_of_start {hub next : Hub} {effects : List Effect}
    (stepped : hub.step .teardownStarts = some (next, effects)) :
    next.teardown.Follows hub.pool.size ((closings effects).map .begun) := by
  simp only [step] at stepped
  split at stepped
  · have follows := follows_closeNext hub (Nat.zero_le hub.pool.size)
    rw [Nat.sub_zero, ← List.range_eq_range'] at follows
    simp only [startTeardown, Option.some.injEq] at stepped
    rw [stepped] at follows
    exact follows
  · cases stepped

/-- The return of a close is met by a teardown that waits for it, and lets it go
on, or aborts it if the close was cancelled from inside. -/
inductive Returns (hub : Hub) (slot : Nat) (later : List Nat) :
    Option Failure → Hub → List Nat → Prop where
  | goesOn {failure : Option Failure} (survived : failure ≠ some .cancelled) :
      Returns hub slot later failure (hub.closeNext later).1 (closings (hub.closeNext later).2)
  | aborts : Returns hub slot later (some .cancelled) { hub with teardown := .aborted later } []

theorem returns_of_step {hub next : Hub} {effects : List Effect} {failure : Option Failure}
    (stepped : hub.step (.closeReturns failure) = some (next, effects)) :
    ∃ slot later, hub.teardown = .closing slot later ∧
      Returns hub slot later failure next (closings effects) := by
  have background := background_of_step rfl stepped
  rw [← closings_withoutNotes]
  generalize withoutNotes effects = told at background
  cases background with
  | closeReturned closing survived =>
      rw [closings_withoutNotes]
      exact ⟨_, _, closing, .goesOn survived⟩
  | closeCancelled closing => exact ⟨_, _, closing, .aborts⟩

theorem Returns.isBegun {hub next : Hub} {slot : Nat} {later begun : List Nat}
    {failure : Option Failure} (returns : Returns hub slot later failure next begun) :
    next.teardown.isBegun = true := by
  cases returns with
  | goesOn survived => exact isBegun_closeNext hub later
  | aborts => rfl

/-- Every other action leaves a teardown that has begun as it is, and closes
nothing. -/
theorem Stepped.teardown_of_other {hub next : Hub} {action : Action} {effects : List Effect}
    (stepped : Stepped hub action next effects) (begun : hub.teardown.isBegun = true)
    (other : action.closeEvents = []) :
    next.teardown = hub.teardown ∧ closings effects = [] := by
  have kept : ∀ {asking : Hub}, asking.teardown = hub.teardown →
      asking.requestTeardown.teardown = hub.teardown := by
    intro asking same
    rcases teardown_requestTeardown asking with unchanged | ⟨absent, -⟩
    · rw [unchanged, same]
    · rw [← same, absent] at begun
      cases begun
  rcases stepped.carries_or_background with carries | background
  · refine ⟨carries.life.teardown, ?_⟩
    obtain ⟨id, about⟩ := carries.about
    cases stepped.tears with
    | rests rests silent => exact silent
    | starts scheduled going takes => cases about
    | goesOn before going takes =>
        rw [carries.life.teardown] at takes
        exact List.append_left_eq_self.mp takes
  · cases background with
    | teardownStarted scheduled =>
        rw [scheduled] at begun
        cases begun
    | closeReturned closing survived => cases other
    | closeCancelled closing => cases other
    | shutdownNow fresh => exact ⟨kept rfl, rfl⟩
    | drainWentOn resuming => exact ⟨kept rfl, rfl⟩
    | _ => exact ⟨rfl, rfl⟩

/-- The return of a close of the plan leads on in it, or stops there. -/
theorem follows_of_returns {hub next : Hub} {effects : List Effect} {failure : Option Failure}
    {size slot : Nat} {later : List Nat} (left : slot :: later = List.range' slot (size - slot))
    (returns : Returns hub slot later failure next (closings effects)) :
    next.teardown.Follows size
      (closePlan slot ++ [.begun slot] ++ Moment.closeEvents ⟨.closeReturns failure, effects⟩) := by
  -- What is left behind this channel is the plan from the next one on.
  have size_sub : size - slot = (size - (slot + 1)) + 1 := by
    have counted := congrArg List.length left
    simp only [List.length_cons, List.length_range'] at counted
    omega
  have inside : slot + 1 ≤ size := by omega
  generalize taken : closings effects = begun at returns
  cases returns with
  | goesOn survived =>
      rw [size_sub, List.range'_succ, List.cons.injEq] at left
      have onward := follows_closeNext hub inside
      rw [← left.2, closePlan_succ, ← taken] at onward
      simpa [Moment.closeEvents, Action.closeEvents] using onward
  | aborts =>
      have stopped : Teardown.Follows size (.aborted later) _ := .aborted inside
      rw [closePlan_succ] at stopped
      simpa [Moment.closeEvents, Action.closeEvents, taken] using stopped

/-- One step keeps a teardown to its plan. -/
theorem follows_of_step {hub next : Hub} {action : Action} {effects : List Effect} {size : Nat}
    {log : List CloseEvent} (follows : hub.teardown.Follows size log)
    (stepped : hub.step action = some (next, effects)) :
    next.teardown.Follows size (log ++ Moment.closeEvents ⟨action, effects⟩) := by
  cases told : action.closeEvents with
  | nil =>
      obtain ⟨same, silent⟩ := (stepped_of_step stepped).teardown_of_other follows.isBegun told
      rw [closings_withoutNotes] at silent
      rw [same, Moment.closeEvents, told, silent, List.map_nil, List.append_nil, List.append_nil]
      exact follows
  | cons event others =>
      cases action with
      | closeReturns failure =>
          obtain ⟨slot, later, closing, returns⟩ := returns_of_step stepped
          rw [closing] at follows
          cases follows with
          | closing left => exact follows_of_returns left returns
      | _ => cases told

/-! ### Runs -/

/-- The closing of the channels began in a run, with so many of them in the pool. -/
inductive ClosesFrom (start : Hub) : List Moment → Nat → Prop where
  | began {before after : List Moment} {taken : List Effect} {middle : Hub}
      (reached : History start before middle) :
      ClosesFrom start (before ++ ⟨.teardownStarts, taken⟩ :: after) middle.pool.size

namespace History

variable {rules : RuleTable} {limits : Limits} {start hub : Hub} {past : List Moment}

/-- Nothing is closed, and no close returns, before the teardown has begun. -/
theorem closeLog_of_unbegun (ran : History start past hub)
    (unbegun : hub.teardown.isBegun = false) : closeLog past = [] := by
  induction ran with
  | begin => rfl
  | @next past hub after action effects earlier stepped ih =>
      have silent := (earlier.next stepped).closings_of_unbegun unbegun
      rw [effectsOf_append, closings_append, List.append_eq_nil_iff] at silent
      have now : closings effects = [] := by simpa using silent.2
      cases told : action.closeEvents with
      | nil =>
          have before : hub.teardown.isBegun = false := by
            cases tears_of_step stepped with
            | rests rests silent =>
                rcases rests with same | ⟨absent, -⟩
                · rw [← same, unbegun]
                · rw [absent]
                  rfl
            | starts scheduled begun takes =>
                rw [begun] at unbegun
                cases unbegun
            | goesOn begun going takes =>
                rw [going] at unbegun
                cases unbegun
          simp [ih before, Moment.closeEvents, told, now]
      | cons event others =>
          cases action with
          | closeReturns failure =>
              obtain ⟨slot, later, -, returns⟩ := returns_of_step stepped
              rw [returns.isBegun] at unbegun
              cases unbegun
          | _ => cases told

/-- A teardown that follows its plan does so to the end of the run. -/
theorem follows_of_begun (ran : History start past hub) {size : Nat} {log : List CloseEvent}
    (follows : start.teardown.Follows size log) :
    hub.teardown.Follows size (log ++ closeLog past) := by
  induction ran with
  | begin => simpa using follows
  | next earlier stepped ih =>
      have onward := follows_of_step ih stepped
      simpa using onward

/-- From the moment at which the closing of the channels begins, it follows the plan
for the channels there were. -/
theorem follows (ran : History start past hub) {size : Nat} (closes : ClosesFrom start past size) :
    hub.teardown.Follows size (closeLog past) := by
  cases closes with
  | @began before after taken middle reached =>
      obtain ⟨again, first, second⟩ := ran.split
      cases first.unique reached
      obtain ⟨next, stepped, later⟩ := second.uncons
      obtain ⟨scheduled, -, -⟩ := starts_of_step stepped
      have none := reached.closeLog_of_unbegun (by rw [scheduled]; rfl)
      have onward := later.follows_of_begun (follows_of_start stepped)
      simpa [none, Moment.closeEvents, Action.closeEvents] using onward

/-- The closing of the channels of a closed hub began in its run. -/
theorem exists_closesFrom (ran : History (fresh rules limits) past hub)
    (begun : hub.teardown.isBegun = true) : ∃ size, ClosesFrom (fresh rules limits) past size := by
  obtain ⟨before, taken, after, middle, rfl, earlier, -⟩ := ran.exists_start rfl begun
  exact ⟨_, .began earlier⟩

end History

/-! ### What callers can rely on -/

/-- How the channels of a hub are closed, after a run. -/
structure SharedClose (start : Hub) (past : List Moment) (hub : Hub) : Prop where
  /-- No channel is closed before the closing of the channels begins. -/
  unbegun : (∀ size, ¬ClosesFrom start past size) → closeLog past = []
  /-- The channels that are in the pool then are closed once each, in the order in
  which they were made, each when the one before is over. -/
  ordered : ∀ size, ClosesFrom start past size → closeLog past <+: closePlan size
  /-- When a close is over, with or without a failure, the next one begins, and behind
  the last one the hub is closed. -/
  undeterred : ∀ size slot failure, ClosesFrom start past size →
    closeLog past = closePlan slot ++ [.begun slot] → failure ≠ some .cancelled →
      ∃ next effects, hub.step (.closeReturns failure) = some (next, effects) ∧
        if slot + 1 < size then closings effects = [slot + 1]
        else closings effects = [] ∧ next.lifecycle = .closed
  /-- In a closed hub every close of the plan is over. -/
  complete : hub.lifecycle = .closed →
    ∃ size, ClosesFrom start past size ∧ closeLog past = closePlan size
  /-- A caller of a shutdown returns from a closed hub, and from no other. -/
  together : ∀ action next effects id, hub.step action = some (next, effects) →
    .returned id ∈ effects → next.lifecycle = .closed

theorem length_closePlan (size : Nat) : (closePlan size).length = 2 * size := by
  induction size with
  | zero => rfl
  | succ size ih =>
      rw [closePlan_succ, List.length_append, ih]
      simp only [List.length_cons, List.length_nil]
      omega

/-- While a close is outstanding, the teardown stands at its channel. -/
theorem closing_of_follows {hub : Hub} {size slot : Nat} {log : List CloseEvent}
    (follows : hub.teardown.Follows size log)
    (outstanding : log = closePlan slot ++ [.begun slot]) :
    ∃ later, hub.teardown = .closing slot later ∧
      slot :: later = List.range' slot (size - slot) := by
  -- A plan that is over up to a channel has an even number of events.
  have uneven : ∀ closed, closePlan closed ≠ closePlan slot ++ [.begun slot] := by
    intro closed same
    have counted := congrArg List.length same
    rw [List.length_append, length_closePlan, length_closePlan] at counted
    simp only [List.length_cons, List.length_nil] at counted
    omega
  generalize stands : hub.teardown = teardown at follows
  cases follows with
  | @closing position later left =>
      obtain ⟨-, same⟩ := List.append_inj' outstanding rfl
      cases same
      exact ⟨later, rfl, left⟩
  | done => exact absurd outstanding (uneven _)
  | aborted inside => exact absurd outstanding (uneven _)

/-- A close that is outstanding can return, with any failure that is not a
cancellation. -/
theorem exists_return {hub : Hub} {slot : Nat} {later : List Nat} {failure : Option Failure}
    (closing : hub.teardown = .closing slot later) (raised : failure ≠ some .cancelled) :
    ∃ effects, hub.step (.closeReturns failure) = some ((hub.closeNext later).1, effects) ∧
      closings effects = closings (hub.closeNext later).2 := by
  obtain ⟨⟨next, effects⟩, possible⟩ :
      ∃ outcome, hub.step (.closeReturns failure) = some outcome :=
    ⟨hub.closeReturns slot later failure, by simp only [step, closing]⟩
  obtain ⟨position, others, again, returns⟩ := returns_of_step possible
  rw [closing] at again
  cases again
  generalize taken : closings effects = begun at returns
  cases returns with
  | goesOn survived => exact ⟨effects, possible, taken⟩
  | aborts => exact absurd rfl raised

/-- Behind a channel comes the next one of the plan, or the end. -/
theorem closeNext_of_left (hub : Hub) {size slot : Nat} {later : List Nat}
    (left : slot :: later = List.range' slot (size - slot)) :
    if slot + 1 < size then closings (hub.closeNext later).2 = [slot + 1]
    else closings (hub.closeNext later).2 = [] ∧ (hub.closeNext later).1.lifecycle = .closed := by
  have counted := congrArg List.length left
  simp only [List.length_cons, List.length_range'] at counted
  split
  · rename_i more
    have size_sub : size - slot = (size - (slot + 1) - 1) + 1 + 1 := by omega
    rw [size_sub, List.range'_succ, List.range'_succ, List.cons.injEq] at left
    rw [left.2]
    rfl
  · rename_i last
    have none : later = [] := List.eq_nil_of_length_eq_zero (by omega)
    subst none
    exact ⟨rfl, rfl⟩

/-- The channels of every hub are closed once for everybody. -/
theorem History.sharedClose {rules : RuleTable} {limits : Limits} {past : List Moment} {hub : Hub}
    (ran : History (fresh rules limits) past hub) : SharedClose (fresh rules limits) past hub := by
  refine ⟨?_, ?_, ?_, ?_, ?_⟩
  · intro never
    apply ran.closeLog_of_unbegun
    by_contra begun
    obtain ⟨size, closes⟩ := ran.exists_closesFrom (by simpa using begun)
    exact never size closes
  · intro size closes
    exact (ran.follows closes).isPrefix
  · intro size slot failure closes outstanding raised
    obtain ⟨later, closing, left⟩ := closing_of_follows (ran.follows closes) outstanding
    obtain ⟨effects, returned, takes⟩ := exists_return closing raised
    refine ⟨_, effects, returned, ?_⟩
    rw [takes]
    exact closeNext_of_left hub left
  · intro closed
    have finished := ran.orderly.closed.mp (lifecycle_eq_closed_iff.mp closed)
    obtain ⟨size, closes⟩ := ran.exists_closesFrom (by rw [finished]; rfl)
    have follows := ran.follows closes
    rw [finished] at follows
    refine ⟨size, closes, ?_⟩
    generalize closeLog past = log at follows
    cases follows with
    | done => rfl
  · intro action next effects id stepped returns
    have shown := (mem_withoutNotes rfl).mpr returns
    obtain ⟨rfl, waiter, finished⟩ := (stepped_of_step stepped).isOver_of_returned shown
    have complete := ran.concerted.teardown_of_isOver finished
    exact lifecycle_eq_closed_iff.mpr (ran.orderly.closed.mpr complete)

/-- Two channels are closed once for three callers, although the first close fails
and the first caller gives up. -/
theorem sharedClose_after_failed_close :
    ∃ rules limits past hub,
      History (fresh rules limits) past hub ∧ ClosesFrom (fresh rules limits) past 2 ∧
        closeLog past = [.begun 0, .ended, .begun 1, .ended] ∧ hub.lifecycle = .closed ∧
        .returned "d" ∈ effectsOf past ∧ .returned "e" ∈ effectsOf past ∧
        SharedClose (fresh rules limits) past hub := by
  have ran : History (fresh .empty ⟨2, 1, by decide, by decide⟩)
      ([] ++ [⟨.begin "a" .unaryUnary "get" .null none, _⟩] ++
        [⟨.begin "b" .unaryUnary "get" .null none, _⟩] ++ [⟨.shutdownNow "c", _⟩] ++
        [⟨.shutdown "d" none, _⟩] ++ [⟨.teardownStarts, _⟩] ++ [⟨.cancelWaiter "c", _⟩] ++
        [⟨.shutdownNow "e", _⟩] ++ [⟨.closeReturns (some (.raised .runtime "lost")), _⟩] ++
        [⟨.drainStarts, _⟩] ++ [⟨.drainWakes, _⟩] ++ [⟨.drainGoesOn, _⟩] ++
        [⟨.closeReturns none, _⟩] ++
        [⟨.waiterReturns "e", _⟩] ++ [⟨.drainReturns, _⟩] ++ [⟨.waiterReturns "d", _⟩]) _ :=
    .next (.next (.next (.next (.next (.next (.next (.next (.next (.next (.next (.next (.next
      (.next (.next .begin rfl) rfl) rfl) rfl) rfl) rfl) rfl) rfl) rfl) rfl) rfl) rfl) rfl) rfl) rfl
  have reached : History (fresh .empty ⟨2, 1, by decide, by decide⟩)
      ([] ++ [⟨.begin "a" .unaryUnary "get" .null none, _⟩] ++
        [⟨.begin "b" .unaryUnary "get" .null none, _⟩] ++ [⟨.shutdownNow "c", _⟩] ++
        [⟨.shutdown "d" none, _⟩]) _ :=
    .next (.next (.next (.next .begin rfl) rfl) rfl) rfl
  refine ⟨_, _, _, _, ran, .began reached, rfl, rfl, ?_, ?_, ran.sharedClose⟩
  · simp
  · simp

end Hub

end AffinityPool
