/-
Module: AffinityPool.Proofs.Affinity.Locality
Purpose: How far one operation on an affinity index reaches: to the entry of its own key, and to
  the key counter of one channel.
Main exports:
  Affinity.entry_bind_of_ne, Affinity.entry_unbind_of_ne, Affinity.lookup_bind_self,
  Affinity.bind_of_elsewhere, Affinity.bind_added_or_refused, Affinity.lookup_unbind_self,
  Affinity.boundKeys_bind_of_ne, Affinity.boundKeys_unbind_of_ne
-/
import AffinityPool.Proofs.Affinity.Account

namespace AffinityPool.Affinity

variable (state : Affinity)

theorem lookup_eq_none_iff {state : Affinity} {key : String} :
    state.lookup key = none ↔ state.entry? key = none := by
  rw [lookup, Option.map_eq_none_iff]

theorem lookup_of_entry {state : Affinity} {key : String} {entry : Binding}
    (found : state.entry? key = some entry) : state.lookup key = some entry.slot := by
  rw [lookup, found]
  rfl

theorem entry_updateSlot (position : Nat) (change : Slot → Slot) (key : String) :
    Affinity.entry? (state.updateSlot position change) key = state.entry? key := rfl

/-! ### Entries -/

/-- Binding a key leaves the entries of other keys alone. -/
theorem entry_bind_of_ne {key other : String} (differs : other ≠ key) (slot : Nat) :
    (state.bind key slot).state.entry? other = state.entry? other := by
  unfold Affinity.bind
  cases found : state.entry? key with
  | none =>
      rw [entry_updateSlot, entry_insert found, if_neg differs]
  | some entry =>
      by_cases same : entry.slot = slot
      · simp only [same, if_true]
        rw [entry_setRefcount, if_neg differs]
      · simp only [same, if_false]

/-- Unbinding a key leaves the entries of other keys alone. -/
theorem entry_unbind_of_ne {key other : String} (differs : other ≠ key) :
    (state.unbind key).state.entry? other = state.entry? other := by
  unfold Affinity.unbind
  cases found : state.entry? key with
  | none => rfl
  | some entry =>
      simp only
      split
      · rfl
      · split
        · split
          · rw [entry_erase, if_neg differs]
          · rw [entry_updateSlot, entry_erase, if_neg differs]
        · rw [entry_setRefcount, if_neg differs]

theorem lookup_bind_of_ne {key other : String} (differs : other ≠ key) (slot : Nat) :
    (state.bind key slot).state.lookup other = state.lookup other := by
  rw [lookup, lookup, entry_bind_of_ne state differs]

theorem lookup_unbind_of_ne {key other : String} (differs : other ≠ key) :
    (state.unbind key).state.lookup other = state.lookup other := by
  rw [lookup, lookup, entry_unbind_of_ne state differs]

/-- A key that is bound stays on its channel, and a new one goes to the channel it
is bound to. -/
theorem lookup_bind_self (key : String) (slot : Nat) :
    (state.bind key slot).state.lookup key = some ((state.lookup key).getD slot) := by
  unfold Affinity.bind
  cases found : state.entry? key with
  | none =>
      rw [lookup_eq_none_iff.mpr found, lookup, entry_updateSlot, entry_insert found, if_pos rfl]
      rfl
  | some entry =>
      rw [lookup_of_entry found]
      by_cases same : entry.slot = slot
      · simp only [same, if_true]
        rw [lookup, entry_setRefcount, if_pos rfl, found]
        simp [same]
      · simp only [same, if_false]
        exact lookup_of_entry found

/-- Binding a key to a channel changes nothing if it is bound to another one. -/
theorem bind_of_elsewhere {key : String} {slot channel : Nat}
    (held : state.lookup key = some channel) (differs : channel ≠ slot) :
    (state.bind key slot).state = state := by
  unfold Affinity.bind
  cases found : state.entry? key with
  | none =>
      rw [lookup_eq_none_iff.mpr found] at held
      cases held
  | some entry =>
      rw [lookup_of_entry found] at held
      cases held
      simp only [if_neg differs]

/-- A bind goes well and adds its key behind the others if that is new, or it fails
and changes nothing. -/
theorem bind_added_or_refused (key : String) (slot : Nat) :
    (∃ count, (state.bind key slot).result = .ok count ∧
        ((∀ entry ∈ state.entries, entry.key ≠ key) →
          (state.bind key slot).state.entries = state.entries ++ [⟨key, slot, 1⟩])) ∨
      ∃ failure, (state.bind key slot).result = .error failure ∧
        (state.bind key slot).state = state := by
  unfold Affinity.bind
  cases found : state.entry? key with
  | none =>
      left
      refine ⟨1, rfl, ?_⟩
      intro absent
      rfl
  | some entry =>
      by_cases same : entry.slot = slot
      · left
        refine ⟨entry.refcount + 1, by simp only [same, if_true], ?_⟩
        intro absent
        rw [entry?_eq_none_iff.mpr absent] at found
        cases found
      · right
        refine ⟨.bindingConflict key (state.number entry.slot) (state.number slot), ?_, ?_⟩
        · simp only [same, if_false]
        · simp only [same, if_false]

/-- Unbinding a key that is not bound changes nothing. -/
theorem unbind_of_unbound {key : String} (unbound : state.lookup key = none) :
    (state.unbind key).state = state := by
  unfold Affinity.unbind
  rw [lookup_eq_none_iff.mp unbound]

/-- Unbinding a key takes it away from its channel or leaves it there. -/
theorem lookup_unbind_self (key : String) :
    (state.unbind key).state.lookup key = none ∨
      (state.unbind key).state.lookup key = state.lookup key := by
  unfold Affinity.unbind
  cases found : state.entry? key with
  | none => exact Or.inr rfl
  | some entry =>
      simp only
      split
      · exact Or.inr rfl
      · split
        · left
          split
          · rw [lookup_eq_none_iff, entry_erase, if_pos rfl]
          · rw [lookup_eq_none_iff, entry_updateSlot, entry_erase, if_pos rfl]
        · right
          rw [lookup_of_entry found, lookup, entry_setRefcount, if_pos rfl, found]
          rfl

/-! ### Counters -/

/-- Binding a key to a channel leaves the key counters of other channels alone. -/
theorem boundKeys_bind_of_ne (key : String) {slot other : Nat} (differs : other ≠ slot) :
    (Slots.at (state.bind key slot).state.slots other).boundKeys =
      (Slots.at state.slots other).boundKeys := by
  unfold Affinity.bind
  cases state.entry? key with
  | none =>
      have apart : ¬(slot = other ∧ other < (state.insert key slot).slots.length) :=
        fun both => differs both.1.symm
      simp only [updateSlot, Slots.at_modify, if_neg apart]
      rfl
  | some entry =>
      by_cases same : entry.slot = slot
      · simp only [same, if_true]
        rfl
      · simp only [same, if_false]

/-- Unbinding a key leaves the key counters of the channels alone that the key is
not bound to. -/
theorem boundKeys_unbind_of_ne {key : String} {other : Nat}
    (differs : state.lookup key ≠ some other) :
    (Slots.at (state.unbind key).state.slots other).boundKeys =
      (Slots.at state.slots other).boundKeys := by
  unfold Affinity.unbind
  cases found : state.entry? key with
  | none => rfl
  | some entry =>
      rw [lookup_of_entry found] at differs
      simp only
      split
      · rfl
      · split
        · split
          · rfl
          · have apart : ¬(entry.slot = other ∧ other < (state.erase key).slots.length) :=
              fun both => differs (congrArg some both.1)
            simp only [updateSlot, Slots.at_modify, if_neg apart]
            rfl
        · rfl

end AffinityPool.Affinity
