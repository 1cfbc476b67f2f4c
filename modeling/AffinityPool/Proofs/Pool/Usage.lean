/-
Module: AffinityPool.Proofs.Pool.Usage
Purpose: A pool in use: callers select channels, count calls on channels they know, and give calls
  back in any order, while channels can or cannot be made.
Main exports:
  Pool.Use, Pool.InUse, Pool.InUse.step, Pool.Usage, Pool.Used, Pool.Extends, Pool.Discipline,
  Pool.Usage.discipline
-/
import AffinityPool.Proofs.Pool.Selection

namespace AffinityPool.Pool

/-!
A pool knows nothing of its callers: it counts.  Here the calls that have been
counted and not given back are kept beside the pool, each as the position of its
channel, so that a call can only be given back by whom it was counted for.
-/

/-- What callers do with a pool.  `supply` is what making a channel yields at that
moment. -/
inductive Use where
  | acquire (supply : Option Failure)
  /-- Count a call on a channel of the pool, without selection. -/
  | acquireAt (position : Nat)
  | release (position : Nat)

/-- What becomes of a use. -/
inductive Yield where
  /-- A channel is selected, or made for the call. -/
  | acquired (position : Nat) (created : Bool)
  /-- A channel would have been made, and could not be. -/
  | refused (failure : Failure)
  | counted
  | released
  /-- A call could not be given back. -/
  | broken (failure : Failure)

/-- Whether it was tried to make a channel. -/
def Yield.invokes : Yield → Bool
  | .acquired _ created => created
  | .refused _ => true
  | _ => false

/-- Whether a channel was made. -/
def Yield.creates : Yield → Bool
  | .acquired _ created => created
  | _ => false

/-- A pool, and for every call held on it the position of its channel. -/
structure InUse where
  pool : Pool
  held : List Nat

namespace InUse

/-- A pool without channels, on which nothing is held. -/
def fresh (limits : Limits) : InUse := ⟨Pool.empty limits, []⟩

/-- One use, if it is possible: a call is counted on channels of the pool, and only
a call that is held is given back. -/
def step (state : InUse) : Use → Option (InUse × Yield)
  | .acquire supply =>
      match state.pool.acquire supply with
      | .ok acquired =>
          some (⟨acquired.pool, acquired.position :: state.held⟩,
            .acquired acquired.position acquired.created)
      | .error failure => some (state, .refused failure)
  | .acquireAt position =>
      if position < state.pool.size then
        some (⟨state.pool.acquireAt position, position :: state.held⟩, .counted)
      else none
  | .release position =>
      if position ∈ state.held then
        match state.pool.release position with
        | .ok pool => some (⟨pool, state.held.erase position⟩, .released)
        | .error failure => some (state, .broken failure)
      else none

end InUse

/-- The runs from one state of a pool in use to another, with what became of each
use.  A run grows at its end. -/
inductive Usage (start : InUse) : List Yield → InUse → Prop where
  | begin : Usage start [] start
  | next {past : List Yield} {state after : InUse} {use : Use} {yield : Yield}
      (earlier : Usage start past state) (stepped : state.step use = some (after, yield)) :
      Usage start (past ++ [yield]) after

/-! ### The invariant -/

/-- The pool keeps its limits, its channels have their positions as numbers and
were made one by one, and each counts the calls that are held on it. -/
structure Tallied (limits : Limits) (past : List Yield) (state : InUse) : Prop where
  limited : state.pool.limits = limits
  bounded : state.pool.size ≤ limits.maxSize
  numbered : state.pool.Numbered
  made : past.countP Yield.creates = state.pool.size
  loads : ∀ position, (state.pool.slotAt position).activeCalls = state.held.count position

/-- Before the first use nothing is to be counted. -/
theorem tallied_fresh (limits : Limits) : Tallied limits [] (.fresh limits) where
  limited := rfl
  bounded := Nat.zero_le _
  numbered := numbered_empty limits
  made := rfl
  loads := fun _ => rfl

/-- What one use can do to a pool whose calls are tallied. -/
inductive Used (state : InUse) : Use → InUse → Yield → Prop where
  | reused {supply : Option Failure} {position : Nat} (least : state.pool.LeastLoaded position)
      (usable : (state.pool.slotAt position).activeCalls < state.pool.limits.ceiling ∨
        state.pool.limits.maxSize ≤ state.pool.size) :
      Used state (.acquire supply) ⟨state.pool.acquireAt position, position :: state.held⟩
        (.acquired position false)
  | made (room : state.pool.size < state.pool.limits.maxSize)
      (saturated : ∀ position < state.pool.size,
        state.pool.limits.ceiling ≤ (state.pool.slotAt position).activeCalls) :
      Used state (.acquire none)
        ⟨state.pool.grow.acquireAt state.pool.size, state.pool.size :: state.held⟩
        (.acquired state.pool.size true)
  | refused {failure : Failure} (room : state.pool.size < state.pool.limits.maxSize)
      (saturated : ∀ position < state.pool.size,
        state.pool.limits.ceiling ≤ (state.pool.slotAt position).activeCalls) :
      Used state (.acquire (some failure)) state (.refused failure)
  | counted {position : Nat} (pooled : position < state.pool.size) :
      Used state (.acquireAt position) ⟨state.pool.acquireAt position, position :: state.held⟩
        .counted
  | released {position : Nat} {pool : Pool} (held : position ∈ state.held)
      (ok : state.pool.release position = .ok pool) :
      Used state (.release position) ⟨pool, state.held.erase position⟩ .released

namespace Tallied

variable {limits : Limits} {past : List Yield} {state after : InUse}

/-- A call that is held can be given back. -/
theorem releasable (tallied : Tallied limits past state) {position : Nat}
    (held : position ∈ state.held) : ∃ pool, state.pool.release position = .ok pool := by
  have active : 0 < (state.pool.slotAt position).activeCalls := by
    rw [tallied.loads]
    exact List.count_pos_iff.mpr held
  exact ⟨_, release_of_active active⟩

/-- A use of a pool whose calls are counted goes one of these ways. -/
theorem used_of_step (tallied : Tallied limits past state) {use : Use} {yield : Yield}
    (stepped : state.step use = some (after, yield)) : Used state use after yield := by
  cases use with
  | acquire supply =>
      simp only [InUse.step] at stepped
      generalize told : state.pool.acquire supply = result at stepped
      have acquiring := acquiring_acquire tallied.numbered supply
      rw [told] at acquiring
      cases acquiring with
      | reused least usable =>
          cases stepped
          exact .reused least usable
      | made room saturated supplied =>
          cases stepped
          cases supplied
          exact .made room saturated
      | refused room saturated supplied =>
          cases stepped
          cases supplied
          exact .refused room saturated
  | acquireAt position =>
      simp only [InUse.step, Option.ite_none_right_eq_some] at stepped
      obtain ⟨pooled, same⟩ := stepped
      cases same
      exact .counted pooled
  | release position =>
      simp only [InUse.step, Option.ite_none_right_eq_some] at stepped
      obtain ⟨held, same⟩ := stepped
      obtain ⟨pool, ok⟩ := tallied.releasable held
      simp only [ok] at same
      cases same
      exact .released held ok

/-- Counting one more call on a channel of the pool. -/
theorem count (tallied : Tallied limits past state) {position : Nat}
    (pooled : position < state.pool.size) {yield : Yield} (silent : yield.creates = false) :
    Tallied limits (past ++ [yield])
      ⟨state.pool.acquireAt position, position :: state.held⟩ where
  limited := tallied.limited
  bounded := by simpa using tallied.bounded
  numbered := tallied.numbered.acquireAt position
  made := by simp [silent, tallied.made]
  loads := by
    intro other
    rw [activeCalls_acquireAt _ pooled, tallied.loads, List.count_cons]
    simp

/-- Making a channel and counting the first call on it. -/
theorem grow (tallied : Tallied limits past state)
    (room : state.pool.size < state.pool.limits.maxSize) :
    Tallied limits (past ++ [.acquired state.pool.size true])
      ⟨state.pool.grow.acquireAt state.pool.size, state.pool.size :: state.held⟩ where
  limited := tallied.limited
  bounded := by
    rw [tallied.limited] at room
    rw [size_acquireAt, size_grow]
    exact room
  numbered := tallied.numbered.grow.acquireAt _
  made := by simp [Yield.creates, tallied.made]
  loads := by
    intro other
    rw [activeCalls_acquireAt _ (by simp), activeCalls_grow, tallied.loads, List.count_cons]
    simp

/-- Giving a call back. -/
theorem giveBack (tallied : Tallied limits past state) {position : Nat} {pool : Pool}
    (ok : state.pool.release position = .ok pool) :
    Tallied limits (past ++ [.released]) ⟨pool, state.held.erase position⟩ where
  limited := (limits_release ok).trans tallied.limited
  bounded := by
    rw [size_release ok]
    exact tallied.bounded
  numbered := tallied.numbered.release ok
  made := by simp [Yield.creates, tallied.made, size_release ok]
  loads := by
    intro other
    rw [slotAt_release ok, List.count_erase]
    by_cases here : position = other
    · subst here
      simp [tallied.loads]
    · simp [here, tallied.loads]

/-- One use keeps the tally. -/
theorem step (tallied : Tallied limits past state) {use : Use} {yield : Yield}
    (used : Used state use after yield) : Tallied limits (past ++ [yield]) after := by
  cases used with
  | reused least usable => exact tallied.count least.pooled rfl
  | made room saturated => exact tallied.grow room
  | refused room saturated =>
      exact ⟨tallied.limited, tallied.bounded, tallied.numbered,
        by simp [Yield.creates, tallied.made], tallied.loads⟩
  | counted pooled => exact tallied.count pooled rfl
  | released held ok => exact tallied.giveBack ok

end Tallied

/-- The tally is kept over every run. -/
theorem Usage.tallied {limits : Limits} {past : List Yield} {state : InUse}
    (ran : Usage (.fresh limits) past state) : Tallied limits past state := by
  induction ran with
  | begin => exact tallied_fresh limits
  | next earlier stepped ih => exact ih.step (ih.used_of_step stepped)

/-! ### Channels stay -/

/-- Every channel stays where it is, with its number and its keys; channels are only
added behind the others. -/
structure Extends (before after : Pool) : Prop where
  size : before.size ≤ after.size
  kept : ∀ position < before.size, ∃ calls,
    after.slotAt position = { before.slotAt position with activeCalls := calls }

theorem Extends.refl (pool : Pool) : Extends pool pool :=
  ⟨Nat.le_refl _, fun position _ => ⟨(pool.slotAt position).activeCalls, rfl⟩⟩

/-- A pool that extends one that extends another extends that one too. -/
theorem Extends.trans {first second third : Pool} (one : Extends first second)
    (other : Extends second third) : Extends first third where
  size := Nat.le_trans one.size other.size
  kept := by
    intro position inside
    obtain ⟨calls, middle⟩ := one.kept position inside
    obtain ⟨more, last⟩ := other.kept position (Nat.lt_of_lt_of_le inside one.size)
    exact ⟨more, by rw [last, middle]⟩

/-- A call that takes a channel takes none away. -/
theorem extends_acquireAt (pool : Pool) (position : Nat) :
    Extends pool (pool.acquireAt position) := by
  refine ⟨by simp, ?_⟩
  intro other inside
  rw [acquireAt, slotAt_update]
  split
  · exact ⟨_, rfl⟩
  · exact ⟨_, rfl⟩

/-- A new channel takes none away. -/
theorem extends_grow (pool : Pool) : Extends pool pool.grow := by
  refine ⟨by simp, ?_⟩
  intro other inside
  rw [slotAt_grow, if_neg (Nat.ne_of_lt inside)]
  exact ⟨_, rfl⟩

/-- A release takes no channel away. -/
theorem extends_release {pool released : Pool} {position : Nat}
    (ok : pool.release position = .ok released) : Extends pool released := by
  refine ⟨Nat.le_of_eq (size_release ok).symm, ?_⟩
  intro other inside
  rw [slotAt_release ok]
  split
  · exact ⟨_, rfl⟩
  · exact ⟨_, rfl⟩

/-- No use takes a channel away. -/
theorem Used.extends {state after : InUse} {use : Use} {yield : Yield}
    (used : Used state use after yield) : Extends state.pool after.pool := by
  cases used with
  | reused least usable => exact extends_acquireAt _ _
  | made room saturated => exact (extends_grow _).trans (extends_acquireAt _ _)
  | refused room saturated => exact Extends.refl _
  | counted pooled => exact extends_acquireAt _ _
  | released held ok => exact extends_release ok

/-- Uses that follow on uses are uses. -/
theorem Usage.append {start middle state : InUse} {before after : List Yield}
    (first : Usage start before middle) (second : Usage middle after state) :
    Usage start (before ++ after) state := by
  induction second with
  | begin => simpa using first
  | next earlier stepped ih =>
      rw [← List.append_assoc]
      exact ih.next stepped

/-- Channels stay over every run that goes on from another one. -/
theorem Usage.extends {limits : Limits} {past later : List Yield} {state last : InUse}
    (ran : Usage (.fresh limits) past state) (onward : Usage state later last) :
    Extends state.pool last.pool := by
  induction onward with
  | begin => exact Extends.refl _
  | next earlier stepped ih =>
      have used := (ran.append earlier).tallied.used_of_step stepped
      exact ih.trans used.extends

/-! ### What callers can rely on -/

/-- The discipline of a pool in use. -/
structure Discipline (limits : Limits) (past : List Yield) (state : InUse) : Prop where
  bounded : state.pool.size ≤ limits.maxSize
  numbered : ∀ position < state.pool.size, (state.pool.slotAt position).number = position
  /-- As many channels were made as there are. -/
  made : past.countP Yield.creates = state.pool.size
  /-- No channel is ever removed or goes elsewhere. -/
  kept : ∀ later last, Usage state later last → Extends state.pool last.pool
  /-- Every channel counts the calls that are held on it. -/
  loads : ∀ position, (state.pool.slotAt position).activeCalls = state.held.count position
  /-- Every call that is held can be given back. -/
  releasable : ∀ position ∈ state.held,
    ∃ after, state.step (.release position) = some (after, .released)
  /-- It is tried to make a channel only if there may be more and all there are
  carry as many calls as the ceiling says. -/
  grows : ∀ use after yield, state.step use = some (after, yield) → yield.invokes = true →
    state.pool.size < limits.maxSize ∧
      ∀ position < state.pool.size, limits.ceiling ≤ (state.pool.slotAt position).activeCalls
  /-- A channel that is made goes behind the others and takes the call. -/
  appends : ∀ use after position, state.step use = some (after, .acquired position true) →
    position = state.pool.size ∧ after.pool.size = state.pool.size + 1
  /-- If none could be made, nothing has changed. -/
  refuses : ∀ use after failure, state.step use = some (after, .refused failure) → after = state
  /-- A call for which it was not tried goes to the least loaded channel, and to
  the first one of those. -/
  selects : ∀ supply after yield, state.step (.acquire supply) = some (after, yield) →
    yield.invokes = false →
      ∃ position, yield = .acquired position false ∧ state.pool.LeastLoaded position ∧
        after.pool = state.pool.acquireAt position
  /-- Such a call fares the same whatever making a channel would have yielded. -/
  unasked : ∀ supply after yield, state.step (.acquire supply) = some (after, yield) →
    yield.invokes = false → ∀ other, state.step (.acquire other) = some (after, yield)

/-- A call that finds a channel to be used again does not ask for another one. -/
theorem step_acquire_of_uninvoked {state after : InUse} {supply : Option Failure} {yield : Yield}
    (stepped : state.step (.acquire supply) = some (after, yield))
    (uninvoked : yield.invokes = false) (other : Option Failure) :
    state.step (.acquire other) = some (after, yield) := by
  cases reusable : state.pool.reusable? with
  | some position =>
      simp only [InUse.step, acquire_of_reusable reusable] at stepped ⊢
      exact stepped
  | none =>
      cases supply with
      | none =>
          simp only [InUse.step, acquire_of_supplied reusable] at stepped
          cases stepped
          cases uninvoked
      | some failure =>
          simp only [InUse.step, acquire_of_unsupplied reusable] at stepped
          cases stepped
          cases uninvoked

/-- Every pool in use is disciplined. -/
theorem Usage.discipline {limits : Limits} {past : List Yield} {state : InUse}
    (ran : Usage (.fresh limits) past state) : Discipline limits past state := by
  have tallied := ran.tallied
  refine ⟨tallied.bounded, tallied.numbered, tallied.made, ?_, tallied.loads, ?_, ?_, ?_, ?_, ?_,
    fun _ _ _ => step_acquire_of_uninvoked⟩
  · intro later last onward
    exact ran.extends onward
  · intro position held
    obtain ⟨pool, ok⟩ := tallied.releasable held
    refine ⟨⟨pool, state.held.erase position⟩, ?_⟩
    simp only [InUse.step, if_pos held, ok]
  · intro use after yield stepped invokes
    rw [← tallied.limited]
    cases tallied.used_of_step stepped with
    | made room saturated => exact ⟨room, saturated⟩
    | refused room saturated => exact ⟨room, saturated⟩
    | _ => cases invokes
  · intro use after position stepped
    cases tallied.used_of_step stepped with
    | made room saturated => simp
  · intro use after failure stepped
    cases tallied.used_of_step stepped with
    | refused room saturated => rfl
  · intro supply after yield stepped uninvoked
    cases tallied.used_of_step stepped with
    | reused least usable => exact ⟨_, rfl, least, rfl⟩
    | made room saturated => cases uninvoked
    | refused room saturated => cases uninvoked

/-- A failed attempt, a call over the ceiling and a call given back: two channels,
and the first one is the least loaded again. -/
theorem discipline_after_attempt :
    ∃ limits past state,
      Usage (.fresh limits) past state ∧
        past = [.acquired 0 true, .counted, .refused (.raised .connection "down"),
          .acquired 1 true, .released, .released] ∧
        state.held = [1] ∧ state.pool.leastLoaded?.map (·.1) = some 0 ∧
        Discipline limits past state := by
  have ran : Usage (.fresh ⟨2, 1, by decide, by decide⟩)
      ([] ++ [_] ++ [_] ++ [_] ++ [_] ++ [_] ++ [_]) _ :=
    .next (.next (.next (.next (.next (.next .begin
      (show InUse.step _ (.acquire none) = some (_, _) from rfl))
      (show InUse.step _ (.acquireAt 0) = some (_, _) from rfl))
      (show InUse.step _ (.acquire (some (.raised .connection "down"))) = some (_, _) from rfl))
      (show InUse.step _ (.acquire none) = some (_, _) from rfl))
      (show InUse.step _ (.release 0) = some (_, _) from rfl))
      (show InUse.step _ (.release 0) = some (_, _) from rfl)
  exact ⟨_, _, _, ran, rfl, rfl, rfl, ran.discipline⟩

end AffinityPool.Pool
