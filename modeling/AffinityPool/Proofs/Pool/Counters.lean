/-
Module: AffinityPool.Proofs.Pool.Counters
Purpose: What the operations of a pool do to the number and the two counters of each slot.
Main exports:
  Slots.at_modify, Slots.at_append, Slots.total_eq_sum, Slots.total_modify, Pool.slotAt,
  Pool.slotAt_grow, Pool.release_of_active, Pool.slotAt_release, Pool.Numbered,
  Pool.leastLoadedFrom_at, Pool.reusable?_lt
-/
import AffinityPool.Pool.Basic
import Mathlib.Algebra.Ring.Nat

namespace AffinityPool

/-! ### Lists of slots -/

namespace Slots

/-- Behind the last channel everything reads as a channel without calls and keys. -/
theorem at_of_le {slots : List Slot} {slot : Nat} (outside : slots.length ≤ slot) :
    Slots.at slots slot = default := by
  simp [Slots.at, outside]

/-- A change to one channel shows there and nowhere else. -/
theorem at_modify (slots : List Slot) (position slot : Nat) (change : Slot → Slot) :
    Slots.at (slots.modify position change) slot =
      if position = slot ∧ slot < slots.length then change (Slots.at slots slot)
      else Slots.at slots slot := by
  simp only [Slots.at, List.getD_eq_getElem?_getD, List.getElem?_modify]
  by_cases inside : slot < slots.length
  · by_cases here : position = slot <;> simp [inside, here]
  · simp [inside]

/-- A new channel stands at the end. -/
theorem at_append (slots : List Slot) (fresh : Slot) (slot : Nat) :
    Slots.at (slots ++ [fresh]) slot =
      if slot = slots.length then fresh else Slots.at slots slot := by
  simp only [Slots.at, List.getD_eq_getElem?_getD]
  rcases Nat.lt_trichotomy slot slots.length with before | rfl | beyond
  · simp [List.getElem?_append_left before, Nat.ne_of_lt before]
  · simp
  · have outside : (slots ++ [fresh]).length ≤ slot := by
      rw [List.length_append]
      exact beyond
    rw [List.getElem?_eq_none outside, List.getElem?_eq_none (Nat.le_of_lt beyond),
      if_neg (Nat.ne_of_gt beyond)]

/-- A counter of all slots together is the sum over the list. -/
theorem total_eq_sum (counter : Slot → Nat) (slots : List Slot) :
    total counter slots = (slots.map counter).sum := by
  induction slots with
  | nil => rfl
  | cons slot rest ih => rw [total, ih, List.map_cons, List.sum_cons]

/-- Changing one slot changes the sum by what it changes of that slot. -/
theorem total_modify (counter : Slot → Nat) {slots : List Slot} {position : Nat}
    (inside : position < slots.length) (change : Slot → Slot) :
    total counter (slots.modify position change) + counter (Slots.at slots position) =
      total counter slots + counter (change (Slots.at slots position)) := by
  induction slots generalizing position with
  | nil => cases inside
  | cons slot rest ih =>
      cases position with
      | zero =>
          simp only [List.modify_zero_cons, total, Slots.at, List.getD_cons_zero]
          omega
      | succ position =>
          have onward := ih (Nat.lt_of_succ_lt_succ inside)
          simp only [List.modify_succ_cons, total, Slots.at, List.getD_cons_succ] at onward ⊢
          omega

end Slots

namespace Pool

/-- The slot of a pool at a position. -/
def slotAt (pool : Pool) (slot : Nat) : Slot := Slots.at pool.slots slot

theorem slotAt_of_le {pool : Pool} {slot : Nat} (outside : pool.size ≤ slot) :
    pool.slotAt slot = default := Slots.at_of_le outside

/-- A change to a channel of the pool shows there and nowhere else. -/
theorem slotAt_update (pool : Pool) (position slot : Nat) (change : Slot → Slot) :
    (pool.update position change).slotAt slot =
      if position = slot ∧ slot < pool.size then change (pool.slotAt slot)
      else pool.slotAt slot := Slots.at_modify ..

/-! ### Counting a call -/

/-- A call that takes a channel counts there and nowhere else. -/
theorem activeCalls_acquireAt (pool : Pool) {position : Nat} (pooled : position < pool.size)
    (slot : Nat) :
    ((pool.acquireAt position).slotAt slot).activeCalls =
      (pool.slotAt slot).activeCalls + if position = slot then 1 else 0 := by
  rw [acquireAt, slotAt_update]
  by_cases here : position = slot
  · subst here
    simp [pooled, Slot.beginCall]
  · simp [here]

@[simp] theorem boundKeys_acquireAt (pool : Pool) (position slot : Nat) :
    ((pool.acquireAt position).slotAt slot).boundKeys = (pool.slotAt slot).boundKeys := by
  rw [acquireAt, slotAt_update]
  split <;> rfl

@[simp] theorem number_acquireAt (pool : Pool) (position slot : Nat) :
    ((pool.acquireAt position).slotAt slot).number = (pool.slotAt slot).number := by
  rw [acquireAt, slotAt_update]
  split <;> rfl

/-! ### Growing -/

/-- A pool grows by one channel, which is fresh. -/
theorem slotAt_grow (pool : Pool) (slot : Nat) :
    pool.grow.slotAt slot = if slot = pool.size then Slot.fresh pool.size else pool.slotAt slot :=
  Slots.at_append ..

@[simp] theorem activeCalls_grow (pool : Pool) (slot : Nat) :
    (pool.grow.slotAt slot).activeCalls = (pool.slotAt slot).activeCalls := by
  rw [slotAt_grow]
  split
  · rename_i new
    rw [slotAt_of_le (Nat.le_of_eq new.symm)]
    rfl
  · rfl

@[simp] theorem boundKeys_grow (pool : Pool) (slot : Nat) :
    (pool.grow.slotAt slot).boundKeys = (pool.slotAt slot).boundKeys := by
  rw [slotAt_grow]
  split
  · rename_i new
    rw [slotAt_of_le (Nat.le_of_eq new.symm)]
    rfl
  · rfl

/-! ### Counting a call as finished -/

/-- A slot that carries a call can be released. -/
theorem release_of_active {pool : Pool} {position : Nat}
    (active : 0 < (pool.slotAt position).activeCalls) :
    pool.release position = .ok (pool.update position fun _ =>
      { pool.slotAt position with activeCalls := (pool.slotAt position).activeCalls - 1 }) := by
  have busy : (Slots.at pool.slots position).activeCalls ≠ 0 := Nat.ne_of_gt active
  simp only [release, Slot.endCall, if_neg busy]
  rfl

/-- Releasing a slot writes that slot. -/
theorem update_of_release {pool released : Pool} {position : Nat}
    (ok : pool.release position = .ok released) :
    ∃ slot, released = pool.update position fun _ => slot := by
  unfold release at ok
  cases ended : (Slots.at pool.slots position).endCall with
  | error failure =>
      rw [ended] at ok
      cases ok
  | ok slot =>
      rw [ended] at ok
      cases ok
      exact ⟨slot, rfl⟩

@[simp] theorem size_release {pool released : Pool} {position : Nat}
    (ok : pool.release position = .ok released) : released.size = pool.size := by
  obtain ⟨slot, rfl⟩ := update_of_release ok
  exact pool.size_update position _

/-- A release leaves the limits alone. -/
theorem limits_release {pool released : Pool} {position : Nat}
    (ok : pool.release position = .ok released) : released.limits = pool.limits := by
  obtain ⟨slot, rfl⟩ := update_of_release ok
  rfl

/-- Releasing a slot takes one call from it and changes nothing else. -/
theorem slotAt_release {pool released : Pool} {position : Nat}
    (ok : pool.release position = .ok released) (slot : Nat) :
    released.slotAt slot =
      if position = slot then
        { pool.slotAt slot with activeCalls := (pool.slotAt slot).activeCalls - 1 }
      else pool.slotAt slot := by
  by_cases idle : (Slots.at pool.slots position).activeCalls = 0
  · simp only [release, Slot.endCall, if_pos idle] at ok
    cases ok
  · have active : 0 < (pool.slotAt position).activeCalls := Nat.pos_of_ne_zero idle
    rw [release_of_active active] at ok
    cases ok
    rw [slotAt_update]
    by_cases here : position = slot
    · subst here
      by_cases inside : position < pool.size
      · simp [inside]
      · rw [slotAt_of_le (Nat.le_of_not_lt inside)] at active
        cases active
    · simp [here]

/-! ### Numbers -/

/-- The number of every slot is its position. -/
def Numbered (pool : Pool) : Prop :=
  ∀ slot < pool.size, (pool.slotAt slot).number = slot

/-- No channel has a wrong number where there is none. -/
theorem numbered_empty (limits : Limits) : (empty limits).Numbered := by
  intro slot inside
  exact absurd inside (Nat.not_lt_zero slot)

/-- Channels keep their numbers when one is taken. -/
theorem Numbered.acquireAt {pool : Pool} (numbered : pool.Numbered) (position : Nat) :
    (pool.acquireAt position).Numbered := by
  intro slot inside
  rw [number_acquireAt]
  exact numbered slot (by simpa using inside)

/-- A new channel gets the next number. -/
theorem Numbered.grow {pool : Pool} (numbered : pool.Numbered) : pool.grow.Numbered := by
  intro slot inside
  rw [size_grow] at inside
  rw [slotAt_grow]
  split
  · rename_i new
    rw [new]
    rfl
  · exact numbered slot (by omega)

/-- Channels keep their numbers when one is released. -/
theorem Numbered.release {pool released : Pool} {position : Nat} (numbered : pool.Numbered)
    (ok : pool.release position = .ok released) : released.Numbered := by
  intro slot inside
  rw [size_release ok] at inside
  rw [slotAt_release ok]
  split
  · exact numbered slot inside
  · exact numbered slot inside

/-! ### Selection -/

/-- The scan ends with a slot of the list, at the place it tells. -/
theorem leastLoadedFrom_at {slots rest : List Slot} {position : Nat} {best : Nat × Slot}
    (left : rest = slots.drop position) (found : slots[best.1]? = some best.2) :
    slots[(leastLoadedFrom position best rest).1]? =
      some (leastLoadedFrom position best rest).2 := by
  induction rest generalizing position best with
  | nil => exact found
  | cons slot rest ih =>
      have here : slots[position]? = some slot := by
        rw [← List.head?_drop, ← left, List.head?_cons]
      have onward : rest = slots.drop (position + 1) := by
        rw [← List.tail_drop, ← left, List.tail_cons]
      rw [leastLoadedFrom]
      split
      · exact ih onward found
      · exact ih onward here

/-- What stands at a position is the channel of that number. -/
theorem slotAt_of_getElem? {pool : Pool} {position : Nat} {slot : Slot}
    (found : pool.slots[position]? = some slot) :
    position < pool.size ∧ pool.slotAt position = slot := by
  refine ⟨(List.getElem?_eq_some_iff.mp found).1, ?_⟩
  simp [slotAt, Slots.at, found]

/-- A slot that is used again is in the pool. -/
theorem reusable?_lt {pool : Pool} {slot : Nat} (reusable : pool.reusable? = some slot) :
    slot < pool.size := by
  unfold reusable? leastLoaded? at reusable
  cases slots : pool.slots with
  | nil => simp [slots] at reusable
  | cons first rest =>
      simp only [slots, Option.ite_none_right_eq_some, Option.some.injEq] at reusable
      have place : pool.slots[(leastLoadedFrom 1 (0, first) rest).1]? =
          some (leastLoadedFrom 1 (0, first) rest).2 :=
        leastLoadedFrom_at (by simp [slots]) (by simp [slots])
      rw [reusable.2] at place
      exact (slotAt_of_getElem? place).1

end Pool

end AffinityPool
