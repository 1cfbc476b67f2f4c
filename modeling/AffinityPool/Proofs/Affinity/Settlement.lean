/-
Module: AffinityPool.Proofs.Affinity.Settlement
Purpose: Binds and unbinds of keys that keep to their channels settle by their numbers, in whatever
  order they come.
Main exports:
  bindCount, unbindCount, Steady, Affinity.perform, Affinity.balance, Affinity.Settled,
  Affinity.settled_perform
-/
import AffinityPool.Proofs.Affinity.Locality
import Mathlib.Data.List.Induction

namespace AffinityPool

/-!
A key that is always bound to the same channel has a balance: the bindings it had at
first, and those that were made, less those that were released.  As long as no key is
released more often than it was bound, the balances are all there is to an index, and
a balance does not depend on the order of events.
-/

/-! ### Events in a row -/

/-- Whether an event binds a key. -/
def BindingEvent.binds (key : String) : BindingEvent → Bool
  | .bind name _ => name = key
  | .unbind _ => false

/-- Whether an event releases a binding of a key. -/
def BindingEvent.unbinds (key : String) : BindingEvent → Bool
  | .bind _ _ => false
  | .unbind name => name = key

/-- How often a key is bound. -/
def bindCount (events : List BindingEvent) (key : String) : Nat :=
  events.countP (BindingEvent.binds key)

/-- How often a binding of a key is released. -/
def unbindCount (events : List BindingEvent) (key : String) : Nat :=
  events.countP (BindingEvent.unbinds key)

/-- Every key is bound to its own channel only, which is among so many, and at no
moment has a key been released more often than it was bound. -/
structure Steady (home : String → Nat) (channels : Nat) (events : List BindingEvent) : Prop where
  homed : ∀ key slot, .bind key slot ∈ events → slot = home key ∧ slot < channels
  covered : ∀ before, before <+: events → ∀ key, unbindCount before key ≤ bindCount before key

/-- Events that are steady as a whole are steady up to any moment. -/
theorem Steady.of_append {home : String → Nat} {channels : Nat} {events later : List BindingEvent}
    (steady : Steady home channels (events ++ later)) : Steady home channels events where
  homed := fun key slot member => steady.homed key slot (List.mem_append_left _ member)
  covered := fun before early => steady.covered before (early.trans (List.prefix_append _ _))

namespace Affinity

/-- Let one event happen to an index. -/
def post (state : Affinity) : BindingEvent → Except Failure Affinity
  | .bind key slot => (state.bind key slot).result.map fun _ => (state.bind key slot).state
  | .unbind key => (state.unbind key).result.map fun _ => (state.unbind key).state

/-- Let events happen one after the other, up to the first that fails. -/
def perform (state : Affinity) (events : List BindingEvent) : Except Failure Affinity :=
  events.foldlM post state

/-- One more event happens to the index that those before it lead to. -/
theorem perform_append_singleton {state next : Affinity} {events : List BindingEvent}
    (performed : state.perform events = .ok next) (event : BindingEvent) :
    state.perform (events ++ [event]) = next.post event := by
  have first : List.foldlM post state events = .ok next := performed
  rw [perform, List.foldlM_append, first]
  exact bind_pure (next.post event)

/-! ### The entry of the key itself -/

variable {state : Affinity} {key : String}

/-- A bind that is not refused leads to the index that it makes. -/
theorem post_bind {slot : Nat} {count : Int} (went : (state.bind key slot).result = .ok count) :
    state.post (.bind key slot) = .ok (state.bind key slot).state := by
  rw [post, went]
  rfl

/-- An unbind that is not refused leads to the index that it makes. -/
theorem post_unbind {remaining : Option Int}
    (went : (state.unbind key).result = .ok remaining) :
    state.post (.unbind key) = .ok (state.unbind key).state := by
  rw [post, went]
  rfl

/-- The entry that is found for a key is the entry of that key. -/
theorem key_of_found {entry : Binding} (found : state.entry? key = some entry) :
    entry.key = key := by
  simpa using List.find?_some found

theorem refcount_of_found {entry : Binding} (found : state.entry? key = some entry) :
    state.refcount key = entry.refcount := by
  rw [refcount, found]

/-- A key without an entry is held by nobody. -/
theorem refcount_of_unbound (unbound : state.entry? key = none) : state.refcount key = 0 := by
  rw [refcount, unbound]

/-- Counting anew keeps all keys in their places. -/
theorem keys_setRefcount (state : Affinity) (key : String) (refcount : Int) :
    (state.setRefcount key refcount).entries.map (·.key) = state.entries.map (·.key) := by
  rw [setRefcount, List.map_map]
  apply List.map_congr_left
  intro entry member
  simp only [Function.comp_apply]
  split <;> rfl

/-- A bind of a key that is bound to no other channel goes well.  A key that was not
bound comes behind the others. -/
theorem bind_of_home {slot : Nat}
    (home : ∀ entry, state.entry? key = some entry → entry.slot = slot) :
    (∃ count, (state.bind key slot).result = .ok count) ∧
      (state.bind key slot).state.entry? key = some ⟨key, slot, state.refcount key + 1⟩ ∧
      (state.bind key slot).state.entries.map (·.key) =
        state.entries.map (·.key) ++ if state.entry? key = none then [key] else [] := by
  unfold Affinity.bind
  cases found : state.entry? key with
  | none =>
      rw [refcount_of_unbound found]
      refine ⟨⟨1, rfl⟩, ?_, ?_⟩
      · rw [entry_updateSlot, entry_insert found, if_pos rfl]
        rfl
      · simp [updateSlot, insert]
  | some entry =>
      have same := home entry found
      simp only [same, if_true, refcount_of_found found]
      refine ⟨⟨entry.refcount + 1, rfl⟩, ?_, ?_⟩
      · rw [entry_setRefcount, if_pos rfl, found, Option.map_some, ← same, ← key_of_found found]
      · rw [keys_setRefcount]
        simp

/-- With its last binding a key goes, and with any other it stays in its place. -/
theorem unbind_of_found {entry : Binding} (consistent : state.Consistent)
    (found : state.entry? key = some entry) :
    (state.unbind key).state.entry? key =
        (if entry.refcount = 1 then none
          else some ⟨key, entry.slot, entry.refcount - 1⟩) ∧
      (state.unbind key).state.entries.map (·.key) =
        if entry.refcount = 1 then (state.entries.map (·.key)).filter (· ≠ key)
        else state.entries.map (·.key) := by
  have live := consistent.alive entry (mem_of_found found)
  have positive := consistent.boundKeys_pos (mem_of_found found)
  have alive : ¬entry.refcount ≤ 0 := by omega
  have counted : (Slots.at state.slots entry.slot).boundKeys ≠ 0 := Nat.ne_of_gt positive
  unfold Affinity.unbind
  simp only [found, if_neg alive]
  by_cases last : entry.refcount = 1
  · simp only [last, Int.sub_self, if_true, Slot.loseKey, if_neg counted]
    constructor
    · rw [entry_updateSlot, entry_erase, if_pos rfl]
    · simp only [updateSlot, erase, List.filter_map]
      rfl
  · have left : ¬entry.refcount - 1 = 0 := by omega
    simp only [if_neg last, if_neg left]
    refine ⟨?_, keys_setRefcount ..⟩
    rw [entry_setRefcount, if_pos rfl, found, Option.map_some, ← key_of_found found]

/-! ### Balances -/

/-- The number of live bindings that a key has when events have happened. -/
def balance (start : Affinity) (events : List BindingEvent) (key : String) : Int :=
  start.refcount key + bindCount events key - unbindCount events key

/-- An index when events have happened to it: each key has the entry that its balance
says, nothing else of the channels has changed, and the keys that were bound at first
are in their places. -/
structure Settled (home : String → Nat) (start : Affinity) (events : List BindingEvent)
    (state : Affinity) : Prop where
  consistent : state.Consistent
  load : SameLoad start.slots state.slots
  entry : ∀ key, state.entry? key =
    if start.balance events key = 0 then none
    else some ⟨key, home key, start.balance events key⟩
  places : ∃ added, state.entries.map (·.key) = start.entries.map (·.key) ++ added

/-- Channels that two changes leave as loaded as they were, both together leave so too. -/
theorem SameLoad.trans {first second third : List Slot} (one : SameLoad first second)
    (other : SameLoad second third) : SameLoad first third :=
  ⟨other.length.trans one.length, fun slot => (other.number slot).trans (one.number slot),
    fun slot => (other.activeCalls slot).trans (one.activeCalls slot)⟩

section

variable {home : String → Nat} {start : Affinity} {events : List BindingEvent}

/-- In a consistent index nobody owes a binding. -/
theorem refcount_nonneg (consistent : state.Consistent) (key : String) :
    0 ≤ state.refcount key := by
  cases found : state.entry? key with
  | none => exact Int.le_of_eq (refcount_of_unbound found).symm
  | some entry =>
      have live := consistent.alive entry (mem_of_found found)
      rw [refcount_of_found found]
      omega

/-- A bind raises the balance of its own key, and of no other. -/
theorem balance_append_bind (start : Affinity) (events : List BindingEvent) (bound : String)
    (slot : Nat) (key : String) :
    start.balance (events ++ [.bind bound slot]) key =
      start.balance events key + if bound = key then 1 else 0 := by
  by_cases same : bound = key
  · simp [balance, bindCount, unbindCount, BindingEvent.binds, BindingEvent.unbinds, same]
    omega
  · simp [balance, bindCount, unbindCount, BindingEvent.binds, BindingEvent.unbinds, same]

/-- An unbind lowers the balance of its own key, and of no other. -/
theorem balance_append_unbind (start : Affinity) (events : List BindingEvent) (released : String)
    (key : String) :
    start.balance (events ++ [.unbind released]) key =
      start.balance events key - if released = key then 1 else 0 := by
  by_cases same : released = key
  · simp [balance, bindCount, unbindCount, BindingEvent.binds, BindingEvent.unbinds, same]
    omega
  · simp [balance, bindCount, unbindCount, BindingEvent.binds, BindingEvent.unbinds, same]

namespace Settled

/-- Before the first event every balance is the number of bindings at first. -/
theorem begin (consistent : start.Consistent)
    (homed : ∀ entry ∈ start.entries, entry.slot = home entry.key) :
    Settled home start [] start where
  consistent := consistent
  load := .refl _
  entry := by
    intro key
    have first : start.balance [] key = start.refcount key := by
      simp [balance, bindCount, unbindCount]
    rw [first]
    cases found : start.entry? key with
    | none => rw [refcount_of_unbound found, if_pos rfl]
    | some entry =>
        have live := consistent.alive entry (mem_of_found found)
        have settled := homed entry (mem_of_found found)
        have named := key_of_found found
        rw [refcount_of_found found, if_neg (by omega), ← named, ← settled]
  places := ⟨[], by simp⟩

/-- The references of a key are its balance, whether it has an entry or not. -/
theorem refcount (settled : Settled home start events state) (key : String) :
    state.refcount key = start.balance events key := by
  have entry := settled.entry key
  split at entry
  · rename_i none
    rw [refcount_of_unbound entry, none]
  · rw [refcount_of_found entry]

/-- A key with the same balance has the same entry, also behind another event. -/
private theorem entry_of_same (settled : Settled home start events state) {event : BindingEvent}
    {next : Affinity} {key : String} (kept : next.entry? key = state.entry? key)
    (same : start.balance (events ++ [event]) key = start.balance events key) :
    next.entry? key =
      if start.balance (events ++ [event]) key = 0 then none
      else some ⟨key, home key, start.balance (events ++ [event]) key⟩ := by
  rw [kept, settled.entry, same]

/-- One more bind on the channel of the key happens, and the index stays settled. -/
theorem bind (settled : Settled home start events state) {key : String}
    (pooled : home key < start.slots.length) (positive : 0 ≤ start.balance events key) :
    ∃ next, state.post (.bind key (home key)) = .ok next ∧
      Settled home start (events ++ [.bind key (home key)]) next := by
  have atHome : ∀ entry, state.entry? key = some entry → entry.slot = home key := by
    intro entry found
    rw [settled.entry] at found
    split at found <;> cases found
    rfl
  obtain ⟨⟨count, went⟩, bound, keys⟩ := bind_of_home atHome
  refine ⟨_, post_bind went, ?_, settled.load.trans (sameLoad_bind ..), ?_, ?_⟩
  · apply settled.consistent.bind
    rw [settled.load.length]
    exact pooled
  · intro other
    by_cases same : key = other
    · subst same
      have more := balance_append_bind start events key (home key) key
      rw [if_pos rfl] at more
      rw [bound, settled.refcount, ← more, if_neg (by omega)]
    · apply settled.entry_of_same (entry_bind_of_ne state (Ne.symm same) (home key))
      rw [balance_append_bind, if_neg same, Int.add_zero]
  · obtain ⟨added, places⟩ := settled.places
    rw [keys, places]
    exact ⟨_, List.append_assoc ..⟩

/-- A release happens as long as something is left of what was bound since, and the index stays
settled. -/
theorem unbind (settled : Settled home start events state) {key : String}
    (consistent : start.Consistent) (positive : start.refcount key < start.balance events key) :
    ∃ next, state.post (.unbind key) = .ok next ∧
      Settled home start (events ++ [.unbind key]) next := by
  have nonneg := refcount_nonneg consistent key
  have found := settled.entry key
  rw [if_neg (by omega)] at found
  obtain ⟨⟨remaining, went⟩, sound⟩ := settled.consistent.unbind key
  obtain ⟨left, keys⟩ := unbind_of_found settled.consistent found
  refine ⟨_, post_unbind went, sound, settled.load.trans (sameLoad_unbind ..),
    ?_, ?_⟩
  · intro other
    by_cases same : key = other
    · subst same
      have fewer := balance_append_unbind start events key key
      rw [if_pos rfl] at fewer
      rw [left, ← fewer]
      by_cases last : start.balance events key = 1
      · rw [if_pos last, if_pos (by omega)]
      · rw [if_neg last, if_neg (by omega)]
    · apply settled.entry_of_same (entry_unbind_of_ne state (Ne.symm same))
      rw [balance_append_unbind, if_neg same, Int.sub_zero]
  · obtain ⟨added, places⟩ := settled.places
    rw [keys, places]
    split
    · rename_i last
      -- A key that goes with its last binding was not bound at first.
      have fresh : start.refcount key = 0 := by
        simp only at last
        omega
      have absent : ∀ name ∈ start.entries.map (·.key), name ≠ key := by
        rintro name member rfl
        obtain ⟨entry, inside, rfl⟩ := List.mem_map.mp member
        cases bound : start.entry? entry.key with
        | none => exact entry?_eq_none_iff.mp bound entry inside rfl
        | some known =>
            have live := consistent.alive known (mem_of_found bound)
            rw [refcount_of_found bound] at fresh
            omega
      have kept : (start.entries.map (·.key)).filter (· ≠ key) = start.entries.map (·.key) :=
        List.filter_eq_self.mpr fun name member => by simpa using absent name member
      rw [List.filter_append, kept]
      exact ⟨_, rfl⟩
    · exact ⟨added, rfl⟩

end Settled

/-- Steady events all go well, and the index settles. -/
theorem settled_perform (consistent : start.Consistent)
    (homed : ∀ entry ∈ start.entries, entry.slot = home entry.key)
    (steady : Steady home start.slots.length events) :
    ∃ state, start.perform events = .ok state ∧ Settled home start events state := by
  induction events using List.reverseRecOn with
  | nil => exact ⟨start, rfl, .begin consistent homed⟩
  | append_singleton events event ih =>
      obtain ⟨state, performed, settled⟩ := ih steady.of_append
      have nonneg := refcount_nonneg consistent event.key
      rw [perform_append_singleton performed]
      cases event with
      | bind key slot =>
          obtain ⟨rfl, pooled⟩ := steady.homed key slot (by simp)
          have covered := steady.covered events (List.prefix_append _ _) key
          apply settled.bind pooled
          simp only [BindingEvent.key] at nonneg
          simp only [balance]
          omega
      | unbind key =>
          have covered := steady.covered (events ++ [.unbind key]) (List.prefix_refl _) key
          apply settled.unbind consistent
          simp [bindCount, unbindCount, BindingEvent.binds, BindingEvent.unbinds] at covered
          simp only [balance, bindCount, unbindCount]
          omega

end

end Affinity

end AffinityPool
