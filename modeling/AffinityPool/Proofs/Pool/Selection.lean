/-
Module: AffinityPool.Proofs.Pool.Selection
Purpose: Which channel a pool selects, and when it makes one instead.
Main exports:
  Pool.LeastLoaded, Pool.leastLoaded?_eq_some, Pool.Acquiring, Pool.acquiring_acquire
-/
import AffinityPool.Proofs.Pool.Counters

namespace AffinityPool.Pool

/-! ### The order of slots -/

/-- Fewer calls count first, and then the smaller number. -/
theorem preferred_iff {a b : Slot} :
    preferred a b = true ↔
      a.activeCalls < b.activeCalls ∨ a.activeCalls = b.activeCalls ∧ a.number ≤ b.number := by
  simp [preferred]

theorem preferred_refl (slot : Slot) : preferred slot slot = true :=
  preferred_iff.mpr (Or.inr ⟨rfl, Int.le_refl _⟩)

/-- Preference goes on from one channel to the next. -/
theorem preferred_trans {a b c : Slot} (first : preferred a b = true)
    (second : preferred b c = true) : preferred a c = true := by
  rw [preferred_iff] at *
  omega

/-- Of two channels one is preferred. -/
theorem preferred_of_not {a b : Slot} (worse : ¬preferred a b = true) :
    preferred b a = true := by
  rw [preferred_iff] at *
  omega

/-! ### The scan -/

/-- The scan ends with a slot that goes before the best one so far and before all
that are still to come. -/
theorem preferred_leastLoadedFrom (position : Nat) (best : Nat × Slot) (rest : List Slot) :
    preferred (leastLoadedFrom position best rest).2 best.2 = true ∧
      ∀ slot ∈ rest, preferred (leastLoadedFrom position best rest).2 slot = true := by
  induction rest generalizing position best with
  | nil => exact ⟨preferred_refl _, by simp⟩
  | cons slot rest ih =>
      rw [leastLoadedFrom]
      split
      · rename_i better
        obtain ⟨before, others⟩ := ih (position + 1) best
        exact ⟨before, List.forall_mem_cons.mpr ⟨preferred_trans before better, others⟩⟩
      · rename_i worse
        obtain ⟨before, others⟩ := ih (position + 1) (position, slot)
        have onward := preferred_trans before (preferred_of_not worse)
        exact ⟨onward, List.forall_mem_cons.mpr ⟨before, others⟩⟩

/-- The position has the least load of the pool, and the smallest number among
those of that load. -/
structure LeastLoaded (pool : Pool) (position : Nat) : Prop where
  pooled : position < pool.size
  least : ∀ other < pool.size,
    (pool.slotAt position).activeCalls < (pool.slotAt other).activeCalls ∨
      (pool.slotAt position).activeCalls = (pool.slotAt other).activeCalls ∧ position ≤ other

/-- Only an empty pool has no least loaded channel. -/
theorem leastLoaded?_eq_none {pool : Pool} (none : pool.leastLoaded? = none) : pool.size = 0 := by
  unfold leastLoaded? at none
  cases slots : pool.slots with
  | nil => simp [size, slots]
  | cons first rest => simp [slots] at none

/-- In a pool whose slots have their positions as numbers, the slot found is the
least loaded one. -/
theorem leastLoaded?_eq_some {pool : Pool} (numbered : pool.Numbered) {position : Nat}
    {slot : Slot} (found : pool.leastLoaded? = some (position, slot)) :
    pool.slotAt position = slot ∧ pool.LeastLoaded position := by
  unfold leastLoaded? at found
  cases slots : pool.slots with
  | nil => simp [slots] at found
  | cons first rest =>
      simp only [slots, Option.some.injEq] at found
      have place : pool.slots[(leastLoadedFrom 1 (0, first) rest).1]? =
          some (leastLoadedFrom 1 (0, first) rest).2 :=
        leastLoadedFrom_at (by simp [slots]) (by simp [slots])
      obtain ⟨beforeFirst, beforeRest⟩ := preferred_leastLoadedFrom 1 (0, first) rest
      rw [found] at place beforeFirst beforeRest
      obtain ⟨pooled, same⟩ := slotAt_of_getElem? place
      refine ⟨same, pooled, ?_⟩
      intro other inside
      have member : pool.slotAt other ∈ first :: rest := by
        rw [← slots, slotAt, Slots.at, List.getD_eq_getElem?_getD,
          List.getElem?_eq_getElem (show other < pool.slots.length from inside)]
        exact List.getElem_mem _
      have before : preferred (pool.slotAt position) (pool.slotAt other) = true := by
        rw [same]
        rcases List.mem_cons.mp member with here | later
        · rw [here]
          exact beforeFirst
        · exact beforeRest _ later
      rw [preferred_iff, numbered position pooled, numbered other inside] at before
      omega

/-! ### Selection -/

/-- What becomes of a call that asks a pool for a channel. -/
inductive Acquiring (pool : Pool) (supply : Option Failure) : Except Failure Acquired → Prop where
  | reused {position : Nat} (least : pool.LeastLoaded position)
      (usable : (pool.slotAt position).activeCalls < pool.limits.ceiling ∨
        pool.limits.maxSize ≤ pool.size) :
      Acquiring pool supply (.ok ⟨position, false, pool.acquireAt position⟩)
  | made (room : pool.size < pool.limits.maxSize)
      (saturated : ∀ position < pool.size,
        pool.limits.ceiling ≤ (pool.slotAt position).activeCalls)
      (supplied : supply = none) :
      Acquiring pool supply (.ok ⟨pool.size, true, pool.grow.acquireAt pool.size⟩)
  | refused {failure : Failure} (room : pool.size < pool.limits.maxSize)
      (saturated : ∀ position < pool.size,
        pool.limits.ceiling ≤ (pool.slotAt position).activeCalls)
      (supplied : supply = some failure) : Acquiring pool supply (.error failure)

/-- What is reused is the least loaded channel, and there is room on it or the pool is full. -/
theorem reusable?_eq_some {pool : Pool} (numbered : pool.Numbered) {position : Nat}
    (reusable : pool.reusable? = some position) :
    pool.LeastLoaded position ∧
      ((pool.slotAt position).activeCalls < pool.limits.ceiling ∨
        pool.limits.maxSize ≤ pool.size) := by
  unfold reusable? at reusable
  cases found : pool.leastLoaded? with
  | none => simp [found] at reusable
  | some best =>
      obtain ⟨place, slot⟩ := best
      simp only [found, Option.ite_none_right_eq_some, Option.some.injEq] at reusable
      obtain ⟨usable, rfl⟩ := reusable
      obtain ⟨same, least⟩ := leastLoaded?_eq_some numbered found
      refine ⟨least, ?_⟩
      simpa [same, isFull] using usable

/-- A pool without a channel to be used again may grow, and all its channels are at
the ceiling. -/
theorem reusable?_eq_none {pool : Pool} (numbered : pool.Numbered)
    (saturated : pool.reusable? = none) :
    pool.size < pool.limits.maxSize ∧
      ∀ position < pool.size, pool.limits.ceiling ≤ (pool.slotAt position).activeCalls := by
  unfold reusable? at saturated
  cases found : pool.leastLoaded? with
  | none =>
      have empty := leastLoaded?_eq_none found
      rw [empty]
      exact ⟨pool.limits.maxSize_pos, fun position inside => absurd inside (Nat.not_lt_zero _)⟩
  | some best =>
      obtain ⟨place, slot⟩ := best
      simp only [found, ite_eq_right_iff, reduceCtorEq, imp_false, Bool.or_eq_true, not_or,
        decide_eq_true_eq, isFull] at saturated
      obtain ⟨same, least⟩ := leastLoaded?_eq_some numbered found
      refine ⟨by omega, ?_⟩
      intro position inside
      have loaded := least.least position inside
      rw [same] at loaded
      omega

/-- A channel that can be reused is taken, and the factory is not asked. -/
theorem acquire_of_reusable {pool : Pool} {position : Nat}
    (reusable : pool.reusable? = some position) (supply : Option Failure) :
    pool.acquire supply = .ok ⟨position, false, pool.acquireAt position⟩ := by
  simp only [acquire, reusable]

/-- If none can be reused, one is made and taken. -/
theorem acquire_of_supplied {pool : Pool} (saturated : pool.reusable? = none) :
    pool.acquire none = .ok ⟨pool.size, true, pool.grow.acquireAt pool.size⟩ := by
  simp only [acquire, saturated]

/-- A factory that fails leaves the pool as it was. -/
theorem acquire_of_unsupplied {pool : Pool} (saturated : pool.reusable? = none)
    (failure : Failure) : pool.acquire (some failure) = .error failure := by
  simp only [acquire, saturated]

/-- An acquisition is one of these three. -/
theorem acquiring_acquire {pool : Pool} (numbered : pool.Numbered) (supply : Option Failure) :
    Acquiring pool supply (pool.acquire supply) := by
  cases reusable : pool.reusable? with
  | some position =>
      rw [acquire_of_reusable reusable]
      obtain ⟨least, usable⟩ := reusable?_eq_some numbered reusable
      exact .reused least usable
  | none =>
      obtain ⟨room, saturated⟩ := reusable?_eq_none numbered reusable
      cases supply with
      | none =>
          rw [acquire_of_supplied reusable]
          exact .made room saturated rfl
      | some failure =>
          rw [acquire_of_unsupplied reusable]
          exact .refused room saturated rfl

end AffinityPool.Pool
