/-
Module: AffinityPool.Proofs.Hub.Life
Purpose: How the life of a hub goes on: closing never ends, and the teardown closes the channels of
  its list one after the other.
Main exports:
  closings, Teardown.isBegun, Teardown.remaining, Hub.Orderly, Hub.Tears, Hub.Stepped.tears,
  Hub.History.orderly, Hub.History.closing, Hub.History.closings_of_started
-/
import AffinityPool.Proofs.Hub.Frame

namespace AffinityPool

/-! ### Channels that are being closed -/

/-- The channel whose closing begins with an effect. -/
def Effect.closing? : Effect → Option Nat
  | .closing slot => some slot
  | _ => none

/-- The channels whose closing has begun, in order. -/
def closings (effects : List Effect) : List Nat := effects.filterMap Effect.closing?

@[simp] theorem closings_nil : closings [] = [] := rfl

@[simp] theorem closings_append (before after : List Effect) :
    closings (before ++ after) = closings before ++ closings after := List.filterMap_append

/-- A channel is among those that were told to close if it was told to. -/
theorem mem_closings {effects : List Effect} {slot : Nat} :
    slot ∈ closings effects ↔ .closing slot ∈ effects := by
  unfold closings
  rw [List.mem_filterMap]
  constructor
  · rintro ⟨effect, member, shown⟩
    cases effect with
    | closing other =>
        cases shown
        exact member
    | _ => cases shown
  · intro member
    exact ⟨.closing slot, member, rfl⟩

@[simp] theorem closings_withoutNotes (effects : List Effect) :
    closings (withoutNotes effects) = closings effects :=
  filterMap_withoutNotes (fun _ => rfl) effects

/-! ### The teardown -/

namespace Teardown

/-- Whether the teardown has taken its list of channels. -/
def isBegun : Teardown → Bool
  | .absent | .scheduled => false
  | .closing .. | .done | .aborted _ => true

/-- The channels of the list whose closing has not begun. -/
def remaining : Teardown → List Nat
  | .closing _ later | .aborted later => later
  | _ => []

end Teardown

namespace Hub

@[simp] theorem closing_requestTeardown (hub : Hub) :
    hub.requestTeardown.closing = hub.closing := by
  unfold requestTeardown
  split <;> rfl

@[simp] theorem closed_requestTeardown (hub : Hub) : hub.requestTeardown.closed = hub.closed := by
  unfold requestTeardown
  split <;> rfl

@[simp] theorem clock_requestTeardown (hub : Hub) : hub.requestTeardown.clock = hub.clock := by
  unfold requestTeardown
  split <;> rfl

@[simp] theorem drained_requestTeardown (hub : Hub) :
    hub.requestTeardown.drained = hub.drained := by
  unfold requestTeardown
  split <;> rfl

@[simp] theorem drain_requestTeardown (hub : Hub) : hub.requestTeardown.drain = hub.drain := by
  unfold requestTeardown
  split <;> rfl

/-- A teardown is requested once. -/
theorem teardown_requestTeardown (hub : Hub) :
    hub.requestTeardown.teardown = hub.teardown ∨
      hub.teardown = .absent ∧ hub.requestTeardown.teardown = .scheduled := by
  unfold requestTeardown
  split
  · rename_i absent
    exact Or.inr ⟨absent, rfl⟩
  · exact Or.inl rfl

@[simp] theorem closing_closeNext (hub : Hub) (later : List Nat) :
    (hub.closeNext later).1.closing = hub.closing := by
  cases later <;> rfl

/-- Going on to the next channel takes no time and leaves the drain alone. -/
theorem life_closeNext (hub : Hub) (later : List Nat) :
    (hub.closeNext later).1.clock = hub.clock ∧ (hub.closeNext later).1.drain = hub.drain ∧
      (hub.closeNext later).1.drained = hub.drained := by
  cases later <;> exact ⟨rfl, rfl, rfl⟩

/-- Channels have begun to close when the next one does. -/
theorem isBegun_closeNext (hub : Hub) (later : List Nat) :
    (hub.closeNext later).1.teardown.isBegun = true := by
  cases later <;> rfl

/-- Going on takes the first channel of a list. -/
theorem closings_closeNext (hub : Hub) (later : List Nat) :
    closings (hub.closeNext later).2 ++ (hub.closeNext later).1.teardown.remaining = later := by
  cases later <;> rfl

/-- What a step does to the teardown.  Only its start takes a list of channels:
those there are at that moment. -/
inductive Tears (hub : Hub) : Action → Hub → List Effect → Prop where
  | rests {action : Action} {next : Hub} {effects : List Effect}
      (rests : next.teardown = hub.teardown ∨
        hub.teardown = .absent ∧ next.teardown = .scheduled)
      (silent : closings effects = []) : Tears hub action next effects
  | starts {next : Hub} {effects : List Effect} (scheduled : hub.teardown = .scheduled)
      (begun : next.teardown.isBegun = true)
      (takes : closings effects ++ next.teardown.remaining = List.range hub.pool.size) :
      Tears hub .teardownStarts next effects
  | goesOn {action : Action} {next : Hub} {effects : List Effect}
      (begun : hub.teardown.isBegun = true) (going : next.teardown.isBegun = true)
      (takes : closings effects ++ next.teardown.remaining = hub.teardown.remaining) :
      Tears hub action next effects

/-- What happens in the background tells channels to close in their order, or tells none to. -/
theorem Background.tears {hub next : Hub} {action : Action} {effects : List Effect}
    (background : Background hub action next effects) : Tears hub action next effects := by
  cases background with
  | shutdownNow => exact .rests (teardown_requestTeardown _) rfl
  | drainWentOn => exact .rests (teardown_requestTeardown _) rfl
  | teardownStarted scheduled =>
      refine .starts scheduled (isBegun_closeNext hub _) ?_
      rw [closings_withoutNotes]
      exact closings_closeNext hub _
  | closeReturned closing =>
      refine .goesOn (by rw [closing]; rfl) (isBegun_closeNext hub _) ?_
      rw [closings_withoutNotes, closing]
      exact closings_closeNext hub _
  | closeCancelled closing => exact .goesOn (by rw [closing]; rfl) rfl (by rw [closing]; rfl)
  | _ => exact .rests (Or.inl rfl) rfl

/-- A call that asks for a channel tells none to close. -/
theorem Dispatching.closings {hub next : Hub} {id : CallId} {call : Call} {opening : Opening}
    {supply : Option Failure} {effects : List Effect}
    (dispatching : Dispatching hub id call opening supply next effects) :
    closings effects = [] := by
  cases dispatching with
  | unreadable unread => rfl
  | unsupplied read unbound saturated supplied => rfl
  | placed read placing => cases placing <;> rfl

/-- A call that exits tells no channel to close. -/
theorem closings_exitPlaced (hub : Hub) (id : CallId) (slot : Nat) (outcome : Outcome) :
    closings (hub.exitPlaced id slot outcome).2 = [] := by
  obtain ⟨shown, told⟩ := exitPlaced_effects hub id slot outcome
  rw [told]
  rfl

/-- Calls neither close channels nor touch the teardown. -/
theorem Stepped.tears {hub next : Hub} {action : Action} {effects : List Effect}
    (stepped : Stepped hub action next effects) : Tears hub action next effects := by
  cases stepped with
  | background background => exact background.tears
  | refused begins fresh closing => exact .rests (Or.inl rfl) rfl
  | waits fresh unclosed many reads => exact .rests (Or.inl rfl) rfl
  | begins fresh unclosed starts dispatching =>
      exact .rests (Or.inl dispatching.sameLife.teardown) dispatching.closings
  | peeked live peeking dispatching =>
      exact .rests (Or.inl dispatching.sameLife.teardown) dispatching.closings
  | gaveUp live peeking givesUp => exact .rests (Or.inl rfl) rfl
  | delivered live waiting streams read => exact .rests (Or.inl rfl) rfl
  | resumed live paused => exact .rests (Or.inl rfl) rfl
  | completed live waiting completes =>
      exact .rests (Or.inl ((sameLife_applyEffect ..).trans (sameLife_exitPlaced ..)).teardown)
        (closings_exitPlaced ..)
  | left live leaves =>
      exact .rests (Or.inl (sameLife_exitPlaced ..).teardown) (closings_exitPlaced ..)

/-- Every step tells channels to close in their order, or tells none to. -/
theorem tears_of_step {hub next : Hub} {action : Action} {effects : List Effect}
    (stepped : hub.step action = some (next, effects)) : Tears hub action next effects := by
  have tears := (stepped_of_step stepped).tears
  have same := closings_withoutNotes effects
  generalize withoutNotes effects = told at tears same
  cases tears with
  | rests rests silent => exact .rests rests (same.symm.trans silent)
  | starts scheduled begun takes =>
      rw [same] at takes
      exact .starts scheduled begun takes
  | goesOn begun going takes =>
      rw [same] at takes
      exact .goesOn begun going takes

/-- The teardown starts with all channels there are. -/
theorem starts_of_step {hub next : Hub} {effects : List Effect}
    (stepped : hub.step .teardownStarts = some (next, effects)) :
    hub.teardown = .scheduled ∧ next.teardown.isBegun = true ∧
      closings effects ++ next.teardown.remaining = List.range hub.pool.size := by
  simp only [step] at stepped
  split at stepped
  · rename_i scheduled
    simp only [startTeardown, Option.some.injEq] at stepped
    have begun := isBegun_closeNext hub (List.range hub.pool.size)
    have takes := closings_closeNext hub (List.range hub.pool.size)
    rw [stepped] at begun takes
    exact ⟨scheduled, begun, takes⟩
  · cases stepped

/-! ### Order -/

/-- A hub is closed once all its channels are. -/
theorem lifecycle_eq_closed_iff {hub : Hub} :
    hub.lifecycle = .closed ↔ hub.closed = true := by
  unfold lifecycle
  by_cases closed : hub.closed = true
  · simp [closed]
  · rw [if_neg closed]
    refine ⟨fun same => ?_, fun same => absurd same closed⟩
    split at same
    · cases same
    · split at same <;> cases same

/-- A hub that is closing and not closed is shutting down. -/
theorem lifecycle_of_closing {hub : Hub} (unclosed : hub.closed = false)
    (closing : hub.closing = true) : hub.lifecycle = .shuttingDown := by
  simp [lifecycle, unclosed, closing]

/-- The background jobs begin only when closing has begun, and a hub is closed
when its teardown is done. -/
structure Orderly (hub : Hub) : Prop where
  draining : hub.drain ≠ .absent → hub.closing = true
  tearing : hub.teardown ≠ .absent → hub.closing = true
  closed : hub.closed = true ↔ hub.teardown = .done

/-- A hub starts in order. -/
theorem orderly_fresh (rules : RuleTable) (limits : Limits) : Orderly (fresh rules limits) where
  draining := fun begun => absurd rfl begun
  tearing := fun begun => absurd rfl begun
  closed := by
    constructor
    · intro closed
      cases closed
    · intro finished
      cases finished

namespace Orderly

variable {hub next : Hub}

/-- What moves no background job keeps a hub in order. -/
theorem sameLife (orderly : Orderly hub) (same : SameLife hub next) : Orderly next where
  draining := by
    rw [same.drain, same.closing]
    exact orderly.draining
  tearing := by
    rw [same.teardown, same.closing]
    exact orderly.tearing
  closed := by
    rw [same.closed, same.teardown]
    exact orderly.closed

/-- Asking for the teardown of a hub that is closing. -/
theorem requestTeardown (orderly : Orderly hub) (closing : hub.closing = true) :
    Orderly hub.requestTeardown where
  draining := fun _ => by rw [closing_requestTeardown, closing]
  tearing := fun _ => by rw [closing_requestTeardown, closing]
  closed := by
    rw [closed_requestTeardown, orderly.closed]
    rcases teardown_requestTeardown hub with same | ⟨absent, scheduled⟩
    · rw [same]
    · rw [absent, scheduled]
      constructor <;> intro finished <;> cases finished

/-- A hub that goes on to the next channel stays in order. -/
theorem closeNext (orderly : Orderly hub) (later : List Nat) (closing : hub.closing = true)
    (unfinished : hub.teardown ≠ .done) : Orderly (hub.closeNext later).1 where
  draining := fun _ => by rw [closing_closeNext, closing]
  tearing := fun _ => by rw [closing_closeNext, closing]
  closed := by
    cases later with
    | nil => exact ⟨fun _ => rfl, fun _ => rfl⟩
    | cons slot later =>
        constructor
        · intro closed
          exact absurd (orderly.closed.mp closed) unfinished
        · intro finished
          cases finished

/-- What happens in the background keeps a hub in order. -/
theorem background (orderly : Orderly hub) {action : Action} {effects : List Effect}
    (background : Background hub action next effects) : Orderly next := by
  cases background with
  | shutdownFirst fresh idle => exact ⟨fun _ => rfl, fun _ => rfl, orderly.closed⟩
  | shutdownNow fresh =>
      refine requestTeardown ?_ rfl
      exact ⟨fun _ => rfl, fun _ => rfl, orderly.closed⟩
  | drainWentOn resuming =>
      have closing := orderly.draining (by rw [resuming]; simp)
      exact requestTeardown ⟨fun _ => closing, orderly.tearing, orderly.closed⟩ closing
  | drainStarted begun | drainWoken begun | drainExpired begun | drainReturned begun
  | drainThwarted begun =>
      have closing := orderly.draining (by rw [begun]; simp)
      exact ⟨fun _ => closing, orderly.tearing, orderly.closed⟩
  | teardownStarted scheduled =>
      have closing := orderly.tearing (by rw [scheduled]; simp)
      exact orderly.closeNext _ closing (by rw [scheduled]; simp)
  | closeReturned going =>
      have closing := orderly.tearing (by rw [going]; simp)
      exact orderly.closeNext _ closing (by rw [going]; simp)
  | closeCancelled going =>
      have closing := orderly.tearing (by rw [going]; simp)
      refine ⟨orderly.draining, fun _ => closing, ?_⟩
      rw [orderly.closed, going]
      simp
  | _ => exact ⟨orderly.draining, orderly.tearing, orderly.closed⟩

/-- A hub that is closing is shutting down until its teardown is done. -/
theorem shuttingDown (orderly : Orderly hub) (closing : hub.closing = true)
    (unfinished : hub.teardown ≠ .done) : hub.lifecycle = .shuttingDown := by
  refine lifecycle_of_closing ?_ closing
  rw [← Bool.not_eq_true, orderly.closed]
  exact unfinished

/-- One step keeps the life of a hub in order. -/
theorem step (orderly : Orderly hub) {action : Action} {effects : List Effect}
    (stepped : Stepped hub action next effects) : Orderly next := by
  rcases stepped.sameLife_or_background with same | background
  · exact orderly.sameLife same
  · exact orderly.background background

end Orderly

/-- Once a hub is closing it stays so. -/
theorem Stepped.closing {hub next : Hub} {action : Action} {effects : List Effect}
    (stepped : Stepped hub action next effects) (closing : hub.closing = true) :
    next.closing = true := by
  rcases stepped.sameLife_or_background with same | background
  · rw [same.closing, closing]
  · cases background <;> simp [closing, startTeardown, dropWaiter]

/-! ### Runs -/

namespace History

variable {rules : RuleTable} {limits : Limits} {start hub : Hub} {past : List Moment}

/-- The life of a hub is in order after every run. -/
theorem orderly (ran : History (fresh rules limits) past hub) : Orderly hub := by
  induction ran with
  | begin => exact orderly_fresh rules limits
  | next earlier stepped ih => exact ih.step (stepped_of_step stepped)

/-- A run does not end the closing of a hub. -/
theorem closing (ran : History start past hub) (closing : start.closing = true) :
    hub.closing = true := by
  induction ran with
  | begin => exact closing
  | next earlier stepped ih => exact (stepped_of_step stepped).closing ih

/-- No channel is closed before the teardown has begun. -/
theorem closings_of_unbegun (ran : History start past hub)
    (unbegun : hub.teardown.isBegun = false) : closings (effectsOf past) = [] := by
  induction ran with
  | begin => rfl
  | @next past hub after action effects earlier stepped ih =>
      cases tears_of_step stepped with
      | rests rests silent =>
          have before : hub.teardown.isBegun = false := by
            rcases rests with same | ⟨absent, -⟩
            · rw [← same, unbegun]
            · rw [absent]
              rfl
          simp [ih before, silent]
      | starts scheduled begun takes =>
          rw [begun] at unbegun
          cases unbegun
      | goesOn begun going takes =>
          rw [going] at unbegun
          cases unbegun

/-- A teardown that has begun goes through its list in order. -/
theorem closings_of_begun (ran : History start past hub)
    (begun : start.teardown.isBegun = true) :
    hub.teardown.isBegun = true ∧
      closings (effectsOf past) ++ hub.teardown.remaining = start.teardown.remaining := by
  induction ran with
  | begin => exact ⟨begun, rfl⟩
  | @next past hub after action effects earlier stepped ih =>
      obtain ⟨going, sofar⟩ := ih
      cases tears_of_step stepped with
      | rests rests silent =>
          rcases rests with same | ⟨absent, -⟩
          · rw [same]
            exact ⟨going, by simpa [silent] using sofar⟩
          · rw [absent] at going
            cases going
      | starts scheduled begun takes =>
          rw [scheduled] at going
          cases going
      | goesOn begun going takes =>
          refine ⟨going, ?_⟩
          rw [effectsOf_append, closings_append, List.append_assoc]
          simpa [takes] using sofar

/-- From its start on, the teardown goes through the channels there were. -/
theorem closings_of_started {taken : List Effect} {after : List Moment}
    (ran : History start (⟨.teardownStarts, taken⟩ :: after) hub) :
    hub.teardown.isBegun = true ∧
      closings (taken ++ effectsOf after) ++ hub.teardown.remaining =
        List.range start.pool.size := by
  obtain ⟨next, stepped, later⟩ := ran.uncons
  obtain ⟨-, begun, takes⟩ := starts_of_step stepped
  obtain ⟨going, sofar⟩ := later.closings_of_begun begun
  refine ⟨going, ?_⟩
  rw [closings_append, List.append_assoc, sofar, takes]

/-- A teardown that has begun during a run has a start in it. -/
theorem exists_start (ran : History start past hub) (unbegun : start.teardown.isBegun = false)
    (begun : hub.teardown.isBegun = true) :
    ∃ before taken after middle, past = before ++ ⟨.teardownStarts, taken⟩ :: after ∧
      History start before middle ∧ History middle (⟨.teardownStarts, taken⟩ :: after) hub := by
  induction ran with
  | begin =>
      rw [begun] at unbegun
      cases unbegun
  | @next past hub next action effects earlier stepped ih =>
      have extended : hub.teardown.isBegun = true →
          ∃ before taken after middle,
            past ++ [⟨action, effects⟩] = before ++ ⟨.teardownStarts, taken⟩ :: after ∧
              History start before middle ∧
              History middle (⟨.teardownStarts, taken⟩ :: after) next := by
        intro going
        obtain ⟨before, taken, after, middle, rfl, first, second⟩ := ih going
        refine ⟨before, taken, after ++ [⟨action, effects⟩], middle, by simp, first, ?_⟩
        exact second.next stepped
      cases tears_of_step stepped with
      | rests rests silent =>
          rcases rests with same | ⟨-, scheduled⟩
          · exact extended (by rw [← same, begun])
          · rw [scheduled] at begun
            cases begun
      | starts scheduled begun takes =>
          exact ⟨past, effects, [], hub, rfl, earlier, .next .begin stepped⟩
      | goesOn begun going takes => exact extended begun

end History

end Hub

end AffinityPool
