/-
Module: AffinityPool.Proofs.Pool.Growth
Purpose: A pool grows no further than its load has ever needed, and no earlier than it has to.
Main exports:
  Pool.load, Pool.load_le, Pool.le_load, Limits.needed_iff, Pool.Plain, Pool.Course, Pool.Packed,
  Pool.Packed.step, Pool.LazyGrowth, Pool.Course.lazyGrowth
-/
import AffinityPool.Proofs.Pool.Usage
import Mathlib.Algebra.Order.BigOperators.Group.List
import Mathlib.Algebra.Order.Floor.Div

namespace AffinityPool

/-! ### How many channels a load needs -/

/-- A pool has as many channels as some number of calls needs, up to its limit, if
none of them could be done without and they carry the calls or are all there may be. -/
theorem Limits.needed_iff (limits : Limits) {size calls : Nat} :
    size = min limits.maxSize (calls ⌈/⌉ limits.ceiling) ↔
      size ≤ limits.maxSize ∧ (∀ made < size, made * limits.ceiling < calls) ∧
        (size < limits.maxSize → calls ≤ size * limits.ceiling) := by
  have rounded : ∀ bound, calls ⌈/⌉ limits.ceiling ≤ bound ↔ calls ≤ bound * limits.ceiling := by
    intro bound
    rw [ceilDiv_le_iff_le_mul limits.ceiling_pos, Nat.mul_comm]
  constructor
  · rintro rfl
    refine ⟨Nat.min_le_left _ _, ?_, ?_⟩
    · intro made early
      apply Nat.lt_of_not_le
      intro enough
      exact Nat.not_lt.mpr ((rounded made).mpr enough) (Nat.lt_min.mp early).2
    · intro room
      apply (rounded _).mp
      rcases Nat.le_total limits.maxSize (calls ⌈/⌉ limits.ceiling) with full | part
      · rw [Nat.min_eq_left full] at room
        exact absurd room (Nat.lt_irrefl _)
      · rw [Nat.min_eq_right part]
  · rintro ⟨bounded, needed, enough⟩
    apply Nat.le_antisymm
    · refine Nat.le_min.mpr ⟨bounded, ?_⟩
      apply Nat.le_of_not_lt
      intro fewer
      exact Nat.not_le.mpr (needed _ fewer) ((rounded _).mp (Nat.le_refl _))
    · rcases Nat.lt_or_ge size limits.maxSize with room | full
      · exact (Nat.min_le_right _ _).trans ((rounded size).mpr (enough room))
      · exact (Nat.min_le_left _ _).trans full

namespace Pool

/-! ### The load of a pool -/

/-- The calls on all channels of a pool together. -/
def load (pool : Pool) : Nat := Slots.total (·.activeCalls) pool.slots

theorem slotAt_of_mem {pool : Pool} {slot : Slot} (member : slot ∈ pool.slots) :
    ∃ position < pool.size, pool.slotAt position = slot := by
  obtain ⟨position, found⟩ := List.mem_iff_getElem?.mp member
  exact ⟨position, slotAt_of_getElem? found⟩

/-- Channels that carry no more than so much each carry no more than that often
together. -/
theorem load_le {pool : Pool} {bound : Nat}
    (each : ∀ position < pool.size, (pool.slotAt position).activeCalls ≤ bound) :
    pool.load ≤ pool.size * bound := by
  have summed := List.sum_le_card_nsmul (pool.slots.map (·.activeCalls)) bound ?_
  · rw [load, Slots.total_eq_sum]
    simpa [size] using summed
  · intro calls member
    obtain ⟨slot, pooled, rfl⟩ := List.mem_map.mp member
    obtain ⟨position, inside, rfl⟩ := slotAt_of_mem pooled
    exact each position inside

/-- Channels that carry at least so much each carry at least that often together. -/
theorem le_load {pool : Pool} {bound : Nat}
    (each : ∀ position < pool.size, bound ≤ (pool.slotAt position).activeCalls) :
    pool.size * bound ≤ pool.load := by
  have summed := List.card_nsmul_le_sum (pool.slots.map (·.activeCalls)) bound ?_
  · rw [load, Slots.total_eq_sum]
    simpa [size] using summed
  · intro calls member
    obtain ⟨slot, pooled, rfl⟩ := List.mem_map.mp member
    obtain ⟨position, inside, rfl⟩ := slotAt_of_mem pooled
    exact each position inside

theorem load_acquireAt {pool : Pool} {position : Nat} (pooled : position < pool.size) :
    (pool.acquireAt position).load = pool.load + 1 := by
  have changed := Slots.total_modify (·.activeCalls) pooled Slot.beginCall
  simp only [Slot.beginCall] at changed
  simp only [load, acquireAt, update]
  omega

@[simp] theorem load_grow (pool : Pool) : pool.grow.load = pool.load := by
  simp [load, grow, Slots.total_eq_sum, Slot.fresh]

theorem load_release {pool released : Pool} {position : Nat}
    (ok : pool.release position = .ok released) (pooled : position < pool.size) :
    released.load ≤ pool.load := by
  obtain ⟨slot, rfl⟩ := update_of_release ok
  have changed := Slots.total_modify (·.activeCalls) pooled fun _ => slot
  have fewer : slot.activeCalls ≤ (pool.slotAt position).activeCalls := by
    have there := slotAt_release ok position
    rw [slotAt_update, if_pos ⟨rfl, pooled⟩, if_pos rfl] at there
    rw [there]
    exact Nat.sub_le _ _
  simp only [slotAt] at fewer
  simp only [load, update]
  omega

/-! ### Runs without affinity -/

/-- What callers do that have their calls placed by load, while a channel can be
made whenever one is needed: they select channels and give calls back. -/
inductive Plain : Use → Prop where
  | acquire : Plain (.acquire none)
  | release (position : Nat) : Plain (.release position)

/-- The runs of plain uses of a fresh pool, with the largest load that the pool has
carried so far. -/
inductive Course (limits : Limits) : Nat → InUse → Prop where
  | begin : Course limits 0 (.fresh limits)
  | next {peak : Nat} {state after : InUse} {use : Use} {yield : Yield}
      (earlier : Course limits peak state) (plain : Plain use)
      (stepped : state.step use = some (after, yield)) :
      Course limits (max peak after.pool.load) after

theorem Course.usage {limits : Limits} {peak : Nat} {state : InUse}
    (ran : Course limits peak state) : ∃ past, Usage (.fresh limits) past state := by
  induction ran with
  | begin => exact ⟨[], .begin⟩
  | next earlier plain stepped ih =>
      obtain ⟨past, ran⟩ := ih
      exact ⟨_, ran.next stepped⟩

/-! ### The invariant -/

/-- No channel was made before the load needed it, and while another one could be
made those there are have always been enough and none of them is over the ceiling. -/
structure Packed (limits : Limits) (peak : Nat) (state : InUse) : Prop where
  reached : state.pool.load ≤ peak
  needed : ∀ made < state.pool.size, made * limits.ceiling < peak
  enough : state.pool.size < limits.maxSize → peak ≤ state.pool.size * limits.ceiling
  even : state.pool.size < limits.maxSize → ∀ position < state.pool.size,
    (state.pool.slotAt position).activeCalls ≤ limits.ceiling

namespace Packed

variable {limits : Limits} {peak : Nat} {state after : InUse} {past : List Yield}

/-- Counting a call on a channel below the ceiling, or on one of a full pool. -/
private theorem reuse (packed : Packed limits peak state) {position : Nat}
    (pooled : position < state.pool.size)
    (usable : (state.pool.slotAt position).activeCalls < limits.ceiling ∨
      limits.maxSize ≤ state.pool.size) (held : List Nat) :
    Packed limits (max peak (state.pool.acquireAt position).load)
      ⟨state.pool.acquireAt position, held⟩ := by
  have even : state.pool.size < limits.maxSize → ∀ other < state.pool.size,
      ((state.pool.acquireAt position).slotAt other).activeCalls ≤ limits.ceiling := by
    intro room other inside
    have before := packed.even room other inside
    rw [activeCalls_acquireAt _ pooled]
    by_cases here : position = other
    · subst here
      simp only [if_true]
      omega
    · simpa [here] using before
  refine ⟨Nat.le_max_right _ _, ?_, ?_, ?_⟩
  · intro made early
    rw [size_acquireAt] at early
    exact (packed.needed made early).trans_le (Nat.le_max_left _ _)
  · intro room
    rw [size_acquireAt] at room ⊢
    apply Nat.max_le.mpr
    refine ⟨packed.enough room, ?_⟩
    rw [← size_acquireAt state.pool position]
    apply load_le
    intro other inside
    exact even room other (by simpa using inside)
  · intro room other inside
    rw [size_acquireAt] at room inside
    exact even room other inside

/-- Making a channel when all there are carry what the ceiling says. -/
private theorem make (packed : Packed limits peak state) (room : state.pool.size < limits.maxSize)
    (saturated : ∀ position < state.pool.size,
      limits.ceiling ≤ (state.pool.slotAt position).activeCalls) (held : List Nat) :
    Packed limits (max peak (state.pool.grow.acquireAt state.pool.size).load)
      ⟨state.pool.grow.acquireAt state.pool.size, held⟩ := by
  have load : (state.pool.grow.acquireAt state.pool.size).load = state.pool.load + 1 := by
    rw [load_acquireAt (by simp), load_grow]
  have busy := le_load saturated
  have enough := packed.enough room
  have reached := packed.reached
  have positive := limits.ceiling_pos
  rw [load]
  refine ⟨?_, ?_, ?_, ?_⟩
  · rw [load]
    exact Nat.le_max_right _ _
  · intro made early
    rw [size_acquireAt, size_grow] at early
    have most := Nat.mul_le_mul_right limits.ceiling (Nat.le_of_lt_succ early)
    omega
  · intro more
    rw [size_acquireAt, size_grow, Nat.succ_mul]
    omega
  · intro more position inside
    rw [activeCalls_acquireAt _ (by simp), activeCalls_grow]
    rcases Nat.lt_or_ge position state.pool.size with old | new
    · rw [if_neg (Nat.ne_of_gt old)]
      exact packed.even room position old
    · rw [slotAt_of_le new]
      split
      · exact positive
      · exact Nat.zero_le _

/-- Giving back a call. -/
private theorem giveBack (packed : Packed limits peak state) {position : Nat} {pool : Pool}
    (ok : state.pool.release position = .ok pool) (pooled : position < state.pool.size)
    (held : List Nat) : Packed limits (max peak pool.load) ⟨pool, held⟩ := by
  have fewer := (load_release ok pooled).trans packed.reached
  rw [Nat.max_eq_left fewer]
  refine ⟨fewer, ?_, ?_, ?_⟩
  · rw [size_release ok]
    exact packed.needed
  · rw [size_release ok]
    exact packed.enough
  · rw [size_release ok]
    intro room other inside
    have before := packed.even room other inside
    rw [slotAt_release ok]
    split
    · exact (Nat.sub_le _ _).trans before
    · exact before

/-- One plain use keeps a pool packed. -/
theorem step (packed : Packed limits peak state) (tallied : Tallied limits past state) {use : Use}
    {yield : Yield} (plain : Plain use) (used : Used state use after yield) :
    Packed limits (max peak after.pool.load) after := by
  have limited := tallied.limited
  cases used with
  | reused least usable =>
      rw [limited] at usable
      exact packed.reuse least.pooled usable _
  | made room saturated =>
      rw [limited] at room saturated
      exact packed.make room saturated _
  | refused room saturated => cases plain
  | counted pooled => cases plain
  | @released position pool held ok =>
      have active : 0 < (state.pool.slotAt position).activeCalls := by
        rw [tallied.loads]
        exact List.count_pos_iff.mpr held
      have pooled : position < state.pool.size := by
        apply Nat.lt_of_not_le
        intro outside
        rw [slotAt_of_le outside] at active
        cases active
      exact packed.giveBack ok pooled _

end Packed

/-- A pool is packed after every run of plain uses. -/
theorem Course.packed {limits : Limits} {peak : Nat} {state : InUse}
    (ran : Course limits peak state) : Packed limits peak state := by
  induction ran with
  | begin =>
      refine ⟨Nat.le_refl 0, ?_, fun _ => Nat.zero_le _, ?_⟩
      · intro made early
        cases early
      · intro room position inside
        cases inside
  | next earlier plain stepped ih =>
      obtain ⟨past, ran⟩ := earlier.usage
      exact ih.step ran.tallied plain (ran.tallied.used_of_step stepped)

/-! ### What callers can rely on -/

/-- How far a pool has grown whose calls are all placed by load. -/
structure LazyGrowth (limits : Limits) (peak : Nat) (state : InUse) : Prop where
  /-- There are as many channels as the largest load so far needs at the ceiling, and
  never more than there may be. -/
  size : state.pool.size = min limits.maxSize (peak ⌈/⌉ limits.ceiling)
  /-- No channel carries more calls than the ceiling says while another one may be
  made. -/
  packed : state.pool.size < limits.maxSize → ∀ position < state.pool.size,
    (state.pool.slotAt position).activeCalls ≤ limits.ceiling
  /-- The run can go on: every call finds a channel. -/
  serves : ∃ after position created,
    state.step (.acquire none) = some (after, .acquired position created)
  /-- The run can go on: every call that is held can be given back. -/
  releases : ∀ position ∈ state.held, ∃ after,
    state.step (.release position) = some (after, .released)

/-- A pool grows with the largest load that it has carried, and not otherwise. -/
theorem Course.lazyGrowth {limits : Limits} {peak : Nat} {state : InUse}
    (ran : Course limits peak state) : LazyGrowth limits peak state := by
  have packed := ran.packed
  obtain ⟨past, usage⟩ := ran.usage
  have tallied := usage.tallied
  refine ⟨?_, packed.even, ?_, ?_⟩
  · exact limits.needed_iff.mpr ⟨tallied.bounded, packed.needed, packed.enough⟩
  · cases reusable : state.pool.reusable? with
    | some position =>
        refine ⟨⟨state.pool.acquireAt position, position :: state.held⟩, position, false, ?_⟩
        simp only [InUse.step, acquire_of_reusable reusable]
    | none =>
        refine ⟨⟨state.pool.grow.acquireAt state.pool.size, state.pool.size :: state.held⟩,
          state.pool.size, true, ?_⟩
        simp only [InUse.step, acquire_of_supplied reusable]
  · intro position held
    obtain ⟨pool, ok⟩ := tallied.releasable held
    refine ⟨⟨pool, state.held.erase position⟩, ?_⟩
    simp only [InUse.step, if_pos held, ok]

/-- Three calls need two channels at a ceiling of two; the second channel stays when
two of the calls have been given back. -/
theorem lazyGrowth_after_release :
    ∃ limits peak state,
      Course limits peak state ∧ limits.maxSize = 3 ∧ limits.ceiling = 2 ∧ peak = 3 ∧
        state.pool.load = 1 ∧ state.pool.size = 2 ∧ LazyGrowth limits peak state := by
  have ran : Course ⟨3, 2, by decide, by decide⟩ _ _ :=
    .next (.next (.next (.next (.next .begin
      .acquire (show InUse.step _ _ = some (_, _) from rfl))
      .acquire (show InUse.step _ _ = some (_, _) from rfl))
      .acquire (show InUse.step _ _ = some (_, _) from rfl))
      (.release 0) (show InUse.step _ _ = some (_, _) from rfl))
      (.release 1) (show InUse.step _ _ = some (_, _) from rfl)
  exact ⟨_, _, _, ran, rfl, rfl, rfl, rfl, rfl, ran.lazyGrowth⟩

end Pool

end AffinityPool
