/-
Module: AffinityPool.Proofs.Affinity.Refusal
Purpose: What a bind or an unbind that fails leaves behind: the index as it was, unless a key is
  released for the last time that its channel does not count.
Main exports:
  Affinity.Uncounted, Affinity.unbind_of_uncounted, Affinity.unbind_failed_elim,
  Affinity.Refusal, Affinity.refusal
-/
import AffinityPool.Proofs.Affinity.Locality

namespace AffinityPool.Affinity

/-!
A failed operation should change nothing.  A bind fails before it writes anything, and so
does an unbind that meets a dead entry.  With the last binding of a key, however, the entry
goes before the channel counts one key less, and a channel that counts no key refuses
that.  The counters of channels can be changed without the entries, so there are indexes in
which this happens; binds and unbinds alone do not lead to one.
-/

variable {state : Affinity} {key : String}

/-- A key with one binding left, on a channel that counts no key. -/
def Uncounted (state : Affinity) (key : String) : Prop :=
  ∃ entry, state.entry? key = some entry ∧ entry.refcount = 1 ∧
    (Slots.at state.slots entry.slot).boundKeys = 0

/-- An index whose channels count their keys has no such key. -/
theorem Consistent.not_uncounted (consistent : state.Consistent) (key : String) :
    ¬state.Uncounted key := by
  rintro ⟨entry, found, -, uncounted⟩
  have positive := consistent.boundKeys_pos (mem_of_found found)
  omega

/-- An index without a key is another one. -/
theorem erase_ne_of_found {entry : Binding} (found : state.entry? key = some entry) :
    state.erase key ≠ state := by
  intro same
  have gone := entry_erase state key key
  rw [if_pos rfl, same, found] at gone
  cases gone

/-- The last unbind of an uncounted key fails, and its entry is gone. -/
theorem unbind_of_uncounted (uncounted : state.Uncounted key) :
    (∃ number, (state.unbind key).result = .error (.negativeKeys number)) ∧
      (state.unbind key).state = state.erase key := by
  obtain ⟨entry, found, last, none⟩ := uncounted
  unfold Affinity.unbind
  simp only [found, last, Slot.loseKey, none]
  exact ⟨⟨_, rfl⟩, rfl⟩

theorem unbind_ne_of_uncounted (uncounted : state.Uncounted key) :
    (state.unbind key).state ≠ state := by
  rw [(unbind_of_uncounted uncounted).2]
  obtain ⟨entry, found, -⟩ := uncounted
  exact erase_ne_of_found found

/-- An unbind that fails has met a dead entry, or an uncounted key. -/
theorem unbind_failed_elim {failure : Failure}
    (failed : (state.unbind key).result = .error failure) :
    (∃ entry, state.entry? key = some entry ∧ entry.refcount ≤ 0 ∧
        (state.unbind key).state = state) ∨ state.Uncounted key := by
  cases found : state.entry? key with
  | none =>
      rw [Affinity.unbind, found] at failed
      cases failed
  | some entry =>
      by_cases dead : entry.refcount ≤ 0
      · left
        refine ⟨entry, rfl, dead, ?_⟩
        rw [Affinity.unbind, found]
        simp only [if_pos dead]
      · right
        rw [Affinity.unbind, found] at failed
        simp only [if_neg dead] at failed
        by_cases last : entry.refcount - 1 = 0
        · refine ⟨entry, found, by omega, ?_⟩
          by_contra counted
          simp only [last, if_true, Slot.loseKey, if_neg counted] at failed
          cases failed
        · simp only [if_neg last] at failed
          cases failed

/-- What failed operations on a key leave behind. -/
structure Refusal (state : Affinity) (key : String) : Prop where
  /-- A bind that fails changes nothing. -/
  bind : ∀ slot failure, (state.bind key slot).result = .error failure →
    (state.bind key slot).state = state
  /-- An unbind that fails changes nothing, unless the key is uncounted. -/
  unbind : ∀ failure, (state.unbind key).result = .error failure →
    ((state.unbind key).state = state ↔ ¬state.Uncounted key)
  /-- The unbind of an uncounted key does fail.  Then the entry of the key is gone, and all
  other entries and the counters are as they were. -/
  uncounted : state.Uncounted key →
    (∃ number, (state.unbind key).result = .error (.negativeKeys number)) ∧
      (state.unbind key).state.slots = state.slots ∧
      (state.unbind key).state.entries = state.entries.filter (·.key ≠ key) ∧
      (state.unbind key).state ≠ state
  /-- If channels count their keys, no key is uncounted. -/
  counted : state.Consistent → ¬state.Uncounted key

/-- A failed bind or unbind changes nothing, unless it is the last unbind of an uncounted
key. -/
theorem refusal (state : Affinity) (key : String) : Refusal state key := by
  constructor
  · intro slot failure failed
    rcases state.bind_added_or_refused key slot with ⟨count, went, -⟩ | ⟨_, -, same⟩
    · rw [went] at failed
      cases failed
    · exact same
  · intro failure failed
    constructor
    · intro same uncounted
      exact unbind_ne_of_uncounted uncounted same
    · intro counted
      rcases unbind_failed_elim failed with ⟨-, -, -, same⟩ | uncounted
      · exact same
      · exact absurd uncounted counted
  · intro uncounted
    obtain ⟨failed, erased⟩ := unbind_of_uncounted uncounted
    refine ⟨failed, ?_, ?_, unbind_ne_of_uncounted uncounted⟩
    · rw [erased]
      rfl
    · rw [erased]
      rfl
  · intro consistent
    exact consistent.not_uncounted key

/-- A key is bound, its channel is made to count one key less, and then the key is released:
that fails, and the entry is gone all the same. -/
theorem entry_lost_by_failed_unbind :
    ∃ state : Affinity,
      ((bind ⟨[.fresh 0], []⟩ "k" 0).state.loseKey 0).state = state ∧
        state.entries = [⟨"k", 0, 1⟩] ∧
        (state.unbind "k").result = .error (.negativeKeys 0) ∧
        (state.unbind "k").state.entries = [] :=
  ⟨_, rfl, rfl, rfl, rfl⟩

end AffinityPool.Affinity
