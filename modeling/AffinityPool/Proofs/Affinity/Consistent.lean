/-
Module: AffinityPool.Proofs.Affinity.Consistent
Purpose: The entries of an affinity index and the key counters of its channels say the same, and
  binding and unbinding keep it so.
Main exports:
  Affinity.Consistent, Affinity.SameLoad, Affinity.Consistent.bind, Affinity.Consistent.unbind,
  Affinity.Consistent.keysFor_partition, Affinity.Consistent.total_boundKeys
-/
import AffinityPool.Affinity.Index
import AffinityPool.Proofs.Pool.Counters
import Mathlib.Data.List.Perm.Basic

namespace AffinityPool.Affinity

/-- How many entries point to a channel. -/
def keyCount (state : Affinity) (slot : Nat) : Nat :=
  state.entries.countP fun entry => entry.slot = slot

/-- There are as many keys for a channel as are counted. -/
theorem length_keysFor (state : Affinity) (slot : Nat) :
    (state.keysFor slot).length = state.keyCount slot := by
  simp [keysFor, keyCount, List.countP_eq_length_filter]

/-- Every key has one entry, every entry has a live binding and points to a
channel there is, and every channel counts the entries that point to it. -/
structure Consistent (state : Affinity) : Prop where
  distinct : (state.entries.map (·.key)).Nodup
  alive : ∀ entry ∈ state.entries, 1 ≤ entry.refcount
  pooled : ∀ entry ∈ state.entries, entry.slot < state.slots.length
  counted : ∀ slot, (Slots.at state.slots slot).boundKeys = state.keyCount slot

/-! ### The entry of a key -/

/-- The entry of a key stands at one place of the index. -/
theorem split_of_found {state : Affinity} {key : String} {entry : Binding}
    (distinct : (state.entries.map (·.key)).Nodup) (found : state.entry? key = some entry) :
    ∃ before after, state.entries = before ++ entry :: after ∧ entry.key = key ∧
      (∀ other ∈ before, other.key ≠ key) ∧ ∀ other ∈ after, other.key ≠ key := by
  obtain ⟨named, before, after, split, clear⟩ := List.find?_eq_some_iff_append.mp found
  have same : entry.key = key := by simpa using named
  refine ⟨before, after, split, same, ?_, ?_⟩
  · intro other member
    simpa using clear other member
  · intro other member equal
    rw [split, List.map_append, List.map_cons, List.nodup_append, List.nodup_cons] at distinct
    exact distinct.2.1.1 (List.mem_map.mpr ⟨other, member, by rw [equal, same]⟩)

/-- An entry that is found is in the index. -/
theorem mem_of_found {state : Affinity} {key : String} {entry : Binding}
    (found : state.entry? key = some entry) : entry ∈ state.entries :=
  List.mem_of_find?_eq_some found

/-- No entry is found if none has the key. -/
theorem entry?_eq_none_iff {state : Affinity} {key : String} :
    state.entry? key = none ↔ ∀ entry ∈ state.entries, entry.key ≠ key := by
  simp [Affinity.entry?, List.find?_eq_none]

/-- Erasing a key takes its one entry out. -/
theorem entries_erase {state : Affinity} {key : String} {before after : List Binding}
    {entry : Binding} (split : state.entries = before ++ entry :: after)
    (named : entry.key = key) (clearBefore : ∀ other ∈ before, other.key ≠ key)
    (clearAfter : ∀ other ∈ after, other.key ≠ key) :
    (state.erase key).entries = before ++ after := by
  have kept : ∀ {part : List Binding}, (∀ other ∈ part, other.key ≠ key) →
      part.filter (fun other => decide (other.key ≠ key)) = part := by
    intro part clear
    exact List.filter_eq_self.mpr fun other member => by simpa using clear other member
  simp only [erase, split, List.filter_append, List.filter_cons, kept clearBefore,
    kept clearAfter]
  simp [named]

/-! ### What binding leaves alone -/

/-- Slots that differ at most in the number of keys they count. -/
structure SameLoad (slots changed : List Slot) : Prop where
  length : changed.length = slots.length
  number : ∀ slot, (Slots.at changed slot).number = (Slots.at slots slot).number
  activeCalls : ∀ slot, (Slots.at changed slot).activeCalls = (Slots.at slots slot).activeCalls

/-- Channels are as loaded as they are. -/
theorem SameLoad.refl (slots : List Slot) : SameLoad slots slots :=
  ⟨rfl, fun _ => rfl, fun _ => rfl⟩

/-- A change that keeps the number and the calls of one channel keeps all channels as loaded as they
were. -/
theorem SameLoad.modify (slots : List Slot) (position : Nat) {change : Slot → Slot}
    (number : (change (Slots.at slots position)).number = (Slots.at slots position).number)
    (activeCalls : (change (Slots.at slots position)).activeCalls =
      (Slots.at slots position).activeCalls) :
    SameLoad slots (slots.modify position change) := by
  refine ⟨List.length_modify .., ?_, ?_⟩
  · intro slot
    rw [Slots.at_modify]
    split
    · rename_i here
      rw [← here.1, number]
    · rfl
  · intro slot
    rw [Slots.at_modify]
    split
    · rename_i here
      rw [← here.1, activeCalls]
    · rfl

/-- Binding changes at most the number of keys of a slot. -/
theorem sameLoad_bind (state : Affinity) (key : String) (slot : Nat) :
    SameLoad state.slots (state.bind key slot).state.slots := by
  unfold Affinity.bind
  cases state.entry? key with
  | none => exact SameLoad.modify state.slots slot rfl rfl
  | some entry =>
      by_cases same : entry.slot = slot
      · simp only [same, if_true]
        exact SameLoad.refl state.slots
      · simp only [same, if_false]
        exact SameLoad.refl state.slots

/-- Unbinding changes at most the number of keys of a slot. -/
theorem sameLoad_unbind (state : Affinity) (key : String) :
    SameLoad state.slots (state.unbind key).state.slots := by
  unfold Affinity.unbind
  cases state.entry? key with
  | none => exact SameLoad.refl state.slots
  | some entry =>
      simp only
      split
      · exact SameLoad.refl state.slots
      · split
        · split
          · exact SameLoad.refl state.slots
          · rename_i slot lost
            unfold Slot.loseKey at lost
            split at lost
            · cases lost
            · cases lost
              exact SameLoad.modify state.slots entry.slot rfl rfl
        · exact SameLoad.refl state.slots

/-! ### What one operation preserves -/

namespace Consistent

variable {state : Affinity}

/-- A channel that a key is bound to counts at least one key. -/
theorem boundKeys_pos (consistent : state.Consistent) {entry : Binding}
    (member : entry ∈ state.entries) : 0 < (Slots.at state.slots entry.slot).boundKeys := by
  rw [consistent.counted, keyCount, List.countP_pos_iff]
  exact ⟨entry, member, by simp⟩

/-- Counters that say the same, on at least as many channels, fit the same
entries. -/
theorem of_slots (consistent : state.Consistent) {slots : List Slot}
    (more : state.slots.length ≤ slots.length)
    (same : ∀ slot, (Slots.at slots slot).boundKeys = (Slots.at state.slots slot).boundKeys) :
    Consistent ⟨slots, state.entries⟩ where
  distinct := consistent.distinct
  alive := consistent.alive
  pooled := fun entry member => Nat.lt_of_lt_of_le (consistent.pooled entry member) more
  counted := fun slot => by
    rw [same, consistent.counted]
    rfl

private theorem setRefcount (consistent : state.Consistent) (key : String) {refcount : Int}
    (live : 1 ≤ refcount) : (state.setRefcount key refcount).Consistent := by
  have kept : ∀ other ∈ (state.setRefcount key refcount).entries,
      ∃ entry ∈ state.entries, other.slot = entry.slot ∧ 1 ≤ other.refcount := by
    intro other member
    obtain ⟨entry, old, rfl⟩ := List.mem_map.mp member
    refine ⟨entry, old, ?_⟩
    split
    · exact ⟨rfl, live⟩
    · exact ⟨rfl, consistent.alive entry old⟩
  have keys : (state.setRefcount key refcount).entries.map (·.key) =
      state.entries.map (·.key) := by
    simp only [Affinity.setRefcount, List.map_map]
    apply List.map_congr_left
    intro entry member
    simp only [Function.comp_apply]
    split <;> rfl
  refine ⟨?_, ?_, ?_, ?_⟩
  · rw [keys]
    exact consistent.distinct
  · intro other member
    obtain ⟨entry, old, same, alive⟩ := kept other member
    exact alive
  · intro other member
    obtain ⟨entry, old, same, alive⟩ := kept other member
    rw [same]
    exact consistent.pooled entry old
  · intro slot
    have counted := consistent.counted slot
    simp only [keyCount, Affinity.setRefcount, List.countP_map] at counted ⊢
    rw [counted]
    apply List.countP_congr
    intro entry member
    simp only [Function.comp_apply]
    split <;> rfl

private theorem insert (consistent : state.Consistent) {key : String} {slot : Nat}
    (unbound : state.entry? key = none) (pooled : slot < state.slots.length) :
    ((state.insert key slot).updateSlot slot Slot.gainKey).Consistent := by
  refine ⟨?_, ?_, ?_, ?_⟩
  · have distinct := consistent.distinct
    simp only [updateSlot, Affinity.insert, List.map_append, List.map_cons, List.map_nil]
    rw [List.nodup_append]
    refine ⟨distinct, by simp, ?_⟩
    intro name member other new
    obtain ⟨entry, entryMember, rfl⟩ := List.mem_map.mp member
    simp only [List.mem_singleton] at new
    subst new
    exact entry?_eq_none_iff.mp unbound entry entryMember
  · intro entry member
    rcases List.mem_append.mp member with old | new
    · exact consistent.alive entry old
    · simp only [List.mem_singleton] at new
      subst new
      exact Int.le_refl 1
  · intro entry member
    simp only [updateSlot, List.length_modify]
    rcases List.mem_append.mp member with old | new
    · exact consistent.pooled entry old
    · simp only [List.mem_singleton] at new
      subst new
      exact pooled
  · intro other
    have counted := consistent.counted other
    simp only [keyCount, updateSlot, Affinity.insert, Slots.at_modify, List.countP_append,
      List.countP_cons, List.countP_nil] at counted ⊢
    by_cases here : slot = other
    · subst here
      simp [pooled, Slot.gainKey, counted]
    · simp [here, counted]

private theorem erase (consistent : state.Consistent) {key : String} {entry : Binding}
    (found : state.entry? key = some entry) {changed : Slot}
    (lost : (Slots.at state.slots entry.slot).loseKey = .ok changed) :
    ((state.erase key).updateSlot entry.slot fun _ => changed).Consistent := by
  obtain ⟨before, after, split, named, clearBefore, clearAfter⟩ :=
    split_of_found consistent.distinct found
  have entries := entries_erase split named clearBefore clearAfter
  have inside := consistent.pooled entry (mem_of_found found)
  have positive := consistent.boundKeys_pos (mem_of_found found)
  have kept : ∀ other ∈ before ++ after, other ∈ state.entries := by
    intro other member
    rw [split]
    rcases List.mem_append.mp member with early | late
    · exact List.mem_append_left _ early
    · exact List.mem_append_right _ (List.mem_cons_of_mem _ late)
  simp only [Slot.loseKey, if_neg (Nat.ne_of_gt positive), Except.ok.injEq] at lost
  refine ⟨?_, ?_, ?_, ?_⟩
  · have distinct := consistent.distinct
    rw [split] at distinct
    simp only [updateSlot, entries]
    refine List.Nodup.sublist ?_ distinct
    exact List.Sublist.map _ (List.Sublist.append_left (List.sublist_cons_self _ _) _)
  · simp only [updateSlot, entries]
    exact fun other member => consistent.alive other (kept other member)
  · simp only [updateSlot, entries, List.length_modify]
    exact fun other member => consistent.pooled other (kept other member)
  · intro other
    have counted := consistent.counted other
    simp only [keyCount, split, List.countP_append, List.countP_cons] at counted
    simp only [keyCount, updateSlot, entries, Slots.at_modify, List.countP_append]
    by_cases here : entry.slot = other
    · subst here
      rw [if_pos ⟨rfl, inside⟩, ← lost]
      simp only [decide_true, if_true] at counted
      simp only
      omega
    · have apart : ¬(entry.slot = other ∧ other < state.slots.length) := fun both => here both.1
      simp only [decide_eq_true_eq, if_neg here] at counted
      rw [show (state.erase key).slots = state.slots from rfl, if_neg apart]
      omega

/-- Binding a key to a channel there is keeps an index consistent. -/
theorem bind (consistent : state.Consistent) (key : String) {slot : Nat}
    (pooled : slot < state.slots.length) : (state.bind key slot).state.Consistent := by
  unfold Affinity.bind
  cases found : state.entry? key with
  | none => exact consistent.insert found pooled
  | some entry =>
      have live := consistent.alive entry (mem_of_found found)
      by_cases same : entry.slot = slot
      · simp only [same, if_true]
        exact consistent.setRefcount key (by omega)
      · simp only [same, if_false]
        exact consistent

/-- Unbinding a key never meets a dead entry or an empty counter, and keeps an
index consistent. -/
theorem unbind (consistent : state.Consistent) (key : String) :
    (∃ remaining, (state.unbind key).result = .ok remaining) ∧
      (state.unbind key).state.Consistent := by
  unfold Affinity.unbind
  cases found : state.entry? key with
  | none => exact ⟨⟨none, rfl⟩, consistent⟩
  | some entry =>
      have live := consistent.alive entry (mem_of_found found)
      have positive := consistent.boundKeys_pos (mem_of_found found)
      have alive : ¬entry.refcount ≤ 0 := by omega
      simp only [if_neg alive]
      by_cases last : entry.refcount - 1 = 0
      · have lost : (Slots.at state.slots entry.slot).loseKey =
            .ok { Slots.at state.slots entry.slot with
              boundKeys := (Slots.at state.slots entry.slot).boundKeys - 1 } :=
          if_neg (Nat.ne_of_gt positive)
        simp only [last, if_true, lost]
        exact ⟨⟨some 0, rfl⟩, consistent.erase found lost⟩
      · simp only [last, if_false]
        exact ⟨⟨some (entry.refcount - 1), rfl⟩, consistent.setRefcount key (by omega)⟩

end Consistent

/-! ### All channels together -/

/-- The keys of the channels before a position are the keys of the entries that
point before it. -/
theorem keysFor_below (state : Affinity) (bound : Nat) :
    ((List.range bound).flatMap state.keysFor).Perm
      ((state.entries.filter (·.slot < bound)).map (·.key)) := by
  induction bound with
  | zero => simp
  | succ bound ih =>
      have below : (state.entries.filter (·.slot < bound + 1)).filter (·.slot < bound) =
          state.entries.filter (·.slot < bound) := by
        rw [List.filter_filter]
        apply List.filter_congr
        intro entry member
        simp only [← Bool.decide_and, decide_eq_decide]
        omega
      have here : (state.entries.filter (·.slot < bound + 1)).filter
            (fun entry => !decide (entry.slot < bound)) =
          state.entries.filter (·.slot = bound) := by
        rw [List.filter_filter]
        apply List.filter_congr
        intro entry member
        simp only [← decide_not, ← Bool.decide_and, decide_eq_decide]
        omega
      have parted := List.filter_append_perm (fun entry : Binding => decide (entry.slot < bound))
        (state.entries.filter (·.slot < bound + 1))
      rw [below, here] at parted
      have keys := parted.map Binding.key
      rw [List.map_append] at keys
      rw [List.range_succ, List.flatMap_append, List.flatMap_singleton]
      exact (ih.append_right _).trans keys

namespace Consistent

variable {state : Affinity}

/-- The keys of all channels are the keys of all entries. -/
theorem keysFor_partition (consistent : state.Consistent) :
    ((List.range state.slots.length).flatMap state.keysFor).Perm
      (state.entries.map (·.key)) := by
  have below := state.keysFor_below state.slots.length
  have all : state.entries.filter (·.slot < state.slots.length) = state.entries :=
    List.filter_eq_self.mpr fun entry member => decide_eq_true (consistent.pooled entry member)
  rw [all] at below
  exact below

/-- The channels together count as many keys as there are entries. -/
theorem total_boundKeys (consistent : state.Consistent) :
    Slots.total (·.boundKeys) state.slots = state.entries.length := by
  -- The sum over the slots, as one over their positions.
  have counters : state.slots.map (·.boundKeys) =
      (List.range state.slots.length).map fun slot => (state.keysFor slot).length := by
    apply List.ext_getElem
    · simp
    · intro slot here there
      have inside : slot < state.slots.length := by simpa using here
      have counted := consistent.counted slot
      simp only [Slots.at, List.getD_eq_getElem?_getD, List.getElem?_eq_getElem inside,
        Option.getD_some] at counted
      simp [length_keysFor, counted]
  rw [Slots.total_eq_sum, counters, ← List.length_flatMap, consistent.keysFor_partition.length_eq,
    List.length_map]

end Consistent

end AffinityPool.Affinity
