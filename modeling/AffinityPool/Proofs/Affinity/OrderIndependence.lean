/-
Module: AffinityPool.Proofs.Affinity.OrderIndependence
Purpose: Binds and unbinds of keys that keep to their channels come out the same in every order,
  and workers that release what they bound leave an index as they found it.
Main exports:
  Affinity.Settled.boundKeys_eq_card, Affinity.Settled.same_of_balance, Worker, Interleaves,
  Interleaves.steady, Affinity.OrderIndependent, Affinity.orderIndependent
-/
import AffinityPool.Proofs.Affinity.Settlement
import Mathlib.Algebra.BigOperators.Group.Finset.Piecewise
import Mathlib.Algebra.Order.BigOperators.Group.Finset
import Mathlib.Data.Finset.Card

namespace AffinityPool

namespace Affinity

variable {home : String → Nat} {start state other : Affinity} {events others : List BindingEvent}

/-! ### What entries decide -/

theorem found_of_mem (distinct : (state.entries.map (·.key)).Nodup) {entry : Binding}
    (member : entry ∈ state.entries) : state.entry? entry.key = some entry := by
  cases found : state.entry? entry.key with
  | none => exact absurd rfl (entry?_eq_none_iff.mp found entry member)
  | some known =>
      have same := List.inj_on_of_nodup_map distinct (mem_of_found found) member
        (key_of_found found)
      rw [same]

/-- The keys in their order and the entry of each are all entries. -/
theorem map_entry_keys (distinct : (state.entries.map (·.key)).Nodup) :
    (state.entries.map (·.key)).map state.entry? = state.entries.map some := by
  rw [List.map_map]
  apply List.map_congr_left
  intro entry member
  exact found_of_mem distinct member

/-- Two indexes with the same entry for each key have the same entries, up to
their order. -/
theorem perm_of_entry (consistent : state.Consistent) (sound : other.Consistent)
    (same : ∀ key, other.entry? key = state.entry? key) : other.entries.Perm state.entries := by
  have inside : ∀ {one two : Affinity}, one.Consistent →
      (∀ key, two.entry? key = one.entry? key) → ∀ entry ∈ one.entries, entry ∈ two.entries := by
    intro one two whole agree entry member
    have found := found_of_mem whole.distinct member
    rw [← agree] at found
    exact mem_of_found found
  apply (List.perm_ext_iff_of_nodup sound.distinct.of_map consistent.distinct.of_map).mpr
  intro entry
  exact ⟨inside sound (fun key => (same key).symm) entry, inside consistent same entry⟩

/-- Slots with the same load and the same number of keys are the same. -/
theorem slots_eq_of_boundKeys {slots changed : List Slot} (load : SameLoad slots changed)
    (same : ∀ slot, (Slots.at changed slot).boundKeys = (Slots.at slots slot).boundKeys) :
    changed = slots := by
  apply List.ext_getElem load.length
  intro slot here there
  have number := load.number slot
  have activeCalls := load.activeCalls slot
  have boundKeys := same slot
  simp only [Slots.at, List.getD_eq_getElem?_getD, List.getElem?_eq_getElem, here, there,
    Option.getD_some] at number activeCalls boundKeys
  cases one : changed[slot]
  cases two : slots[slot]
  rw [one, two] at number activeCalls boundKeys
  simp only at number activeCalls boundKeys
  rw [number, activeCalls, boundKeys]

namespace Settled

/-- Events that leave each key with the same balance leave the same index. -/
theorem same_of_balance (settled : Settled home start events state)
    (reached : Settled home start others other)
    (same : ∀ key, start.balance others key = start.balance events key) :
    other.slots = state.slots ∧ ∀ key, other.entry? key = state.entry? key := by
  have entries : ∀ key, other.entry? key = state.entry? key := by
    intro key
    rw [reached.entry, settled.entry, same]
  have counts := perm_of_entry settled.consistent reached.consistent entries
  refine ⟨slots_eq_of_boundKeys ?_ ?_, entries⟩
  · exact ⟨reached.load.length.trans settled.load.length.symm,
      fun slot => (reached.load.number slot).trans (settled.load.number slot).symm,
      fun slot => (reached.load.activeCalls slot).trans (settled.load.activeCalls slot).symm⟩
  · intro slot
    rw [reached.consistent.counted, settled.consistent.counted]
    exact counts.countP_eq _

/-- Events that leave each key with the balance it had leave the index as it was. -/
theorem eq_of_balance (settled : Settled home start events state) (consistent : start.Consistent)
    (homed : ∀ entry ∈ start.entries, entry.slot = home entry.key)
    (same : ∀ key, start.balance events key = start.balance [] key) : state = start := by
  obtain ⟨slots, entries⟩ := (begin consistent homed).same_of_balance settled same
  obtain ⟨added, places⟩ := settled.places
  have long := (perm_of_entry consistent settled.consistent entries).length_eq
  have none : added = [] := by
    have lengths := congrArg List.length places
    simp only [List.length_append, List.length_map] at lengths
    exact List.length_eq_zero_iff.mp (by omega)
  rw [none, List.append_nil] at places
  have listed : state.entries.map some = start.entries.map some := by
    rw [← map_entry_keys settled.consistent.distinct, ← map_entry_keys consistent.distinct, places]
    exact congrArg (fun entry => List.map entry (start.entries.map (·.key))) (funext entries)
  have equal := List.map_injective_iff.mpr (Option.some_injective Binding) listed
  cases state
  cases start
  simp only at slots equal
  rw [slots, equal]

/-- A channel counts the keys that are at home there and have a balance. -/
theorem boundKeys_eq_card (settled : Settled home start events state) (slot : Nat)
    {keys : Finset String} (covers : ∀ key, start.balance events key ≠ 0 → key ∈ keys) :
    (Slots.at state.slots slot).boundKeys =
      (keys.filter fun key => home key = slot ∧ start.balance events key ≠ 0).card := by
  have listed : (state.keysFor slot).toFinset =
      keys.filter fun key => home key = slot ∧ start.balance events key ≠ 0 := by
    ext key
    have entry := settled.entry key
    simp only [List.mem_toFinset, keysFor, List.mem_map, List.mem_filter, decide_eq_true_eq,
      Finset.mem_filter]
    constructor
    · rintro ⟨known, ⟨member, here⟩, rfl⟩
      rw [found_of_mem settled.consistent.distinct member] at entry
      split at entry
      · cases entry
      · rename_i balanced
        have standing := congrArg (·.map (·.slot)) entry
        simp only [Option.map_some, Option.some.injEq] at standing
        exact ⟨covers _ balanced, standing.symm.trans here, balanced⟩
    · rintro ⟨-, here, balanced⟩
      rw [if_neg balanced] at entry
      exact ⟨_, ⟨mem_of_found entry, here⟩, rfl⟩
  have once : (state.keysFor slot).Nodup :=
    settled.consistent.distinct.sublist (List.filter_sublist.map _)
  rw [← listed, List.toFinset_card_of_nodup once, length_keysFor, settled.consistent.counted]

end Settled

end Affinity

/-! ### Workers -/

/-- A worker binds a key so many times, and then releases it as often. -/
structure Worker where
  key : String
  rounds : Nat
deriving Repr, DecidableEq

/-- What a worker does, in order. -/
def Worker.program (home : String → Nat) (worker : Worker) : List BindingEvent :=
  List.replicate worker.rounds (.bind worker.key (home worker.key)) ++
    List.replicate worker.rounds (.unbind worker.key)

/-- What one of several workers does in a trace, in order. -/
def eventsBy (trace : List (Nat × BindingEvent)) (worker : Nat) : List BindingEvent :=
  (trace.filter (·.1 = worker)).map (·.2)

/-- Every step of a trace is a worker's, and each worker carries out its program. -/
structure Interleaves (home : String → Nat) (workers : List Worker)
    (trace : List (Nat × BindingEvent)) : Prop where
  known : ∀ step ∈ trace, step.1 < workers.length
  programs : ∀ position worker, workers[position]? = some worker →
    eventsBy trace position = worker.program home

/-- A trace has as many events of a kind as its workers have together. -/
theorem countP_eq_sum (test : BindingEvent → Bool) {trace : List (Nat × BindingEvent)}
    {workers : Nat} (known : ∀ step ∈ trace, step.1 < workers) :
    (trace.map (·.2)).countP test =
      ∑ worker ∈ Finset.range workers, (eventsBy trace worker).countP test := by
  induction trace with
  | nil => simp [eventsBy]
  | cons step rest ih =>
      have inside := known step List.mem_cons_self
      have later := ih fun other member => known other (List.mem_cons_of_mem _ member)
      have more : ∀ worker, (eventsBy (step :: rest) worker).countP test =
          (eventsBy rest worker).countP test +
            if step.1 = worker then (if test step.2 = true then 1 else 0) else 0 := by
        intro worker
        by_cases mine : step.1 = worker
        · simp [eventsBy, mine, List.countP_cons]
        · simp [eventsBy, mine]
      rw [List.map_cons, List.countP_cons, later, Finset.sum_congr rfl fun worker _ => more worker,
        Finset.sum_add_distrib, Finset.sum_ite_eq, if_pos (Finset.mem_range.mpr inside)]

/-- At every moment a worker has bound its key at least as often as it released it. -/
theorem Worker.covered (home : String → Nat) (worker : Worker) {before : List BindingEvent}
    (early : before <+: worker.program home) (key : String) :
    unbindCount before key ≤ bindCount before key := by
  rw [List.prefix_iff_eq_take] at early
  rw [early]
  by_cases own : worker.key = key
  · simp [program, unbindCount, bindCount, BindingEvent.binds, BindingEvent.unbinds, own,
      List.take_append, List.take_replicate, List.countP_replicate]
  · simp [program, unbindCount, bindCount, BindingEvent.binds, BindingEvent.unbinds, own,
      List.take_append, List.take_replicate, List.countP_replicate]

/-- In the end it has released its key as often as it bound it. -/
theorem Worker.even (home : String → Nat) (worker : Worker) (key : String) :
    unbindCount (worker.program home) key = bindCount (worker.program home) key := by
  simp [program, unbindCount, bindCount, BindingEvent.binds, BindingEvent.unbinds,
    List.countP_replicate]

namespace Interleaves

variable {home : String → Nat} {workers : List Worker} {trace : List (Nat × BindingEvent)}

theorem exists_worker (interleaves : Interleaves home workers trace) {position : Nat}
    (inside : position < workers.length) :
    ∃ worker ∈ workers, eventsBy trace position = worker.program home :=
  ⟨workers[position], List.getElem_mem inside,
    interleaves.programs position _ (List.getElem?_eq_getElem inside)⟩

/-- Together, workers are as steady as each of them is. -/
theorem steady (interleaves : Interleaves home workers trace) {channels : Nat}
    (pooled : ∀ worker ∈ workers, home worker.key < channels) :
    Steady home channels (trace.map (·.2)) where
  homed := by
    intro key slot member
    obtain ⟨step, inside, same⟩ := List.mem_map.mp member
    obtain ⟨worker, hired, program⟩ := interleaves.exists_worker (interleaves.known step inside)
    have own : BindingEvent.bind key slot ∈ eventsBy trace step.1 := by
      rw [← same]
      exact List.mem_map.mpr ⟨step, List.mem_filter.mpr ⟨inside, by simp⟩, rfl⟩
    rw [program] at own
    rcases List.mem_append.mp own with binding | releasing
    · cases List.eq_of_mem_replicate binding
      exact ⟨rfl, pooled worker hired⟩
    · cases List.eq_of_mem_replicate releasing
  covered := by
    intro before early key
    rw [List.prefix_iff_eq_take, ← List.map_take] at early
    have known : ∀ step ∈ trace.take before.length, step.1 < workers.length :=
      fun step member => interleaves.known step (List.mem_of_mem_take member)
    rw [early, unbindCount, bindCount, countP_eq_sum _ known, countP_eq_sum _ known]
    apply Finset.sum_le_sum
    intro position inside
    obtain ⟨worker, -, program⟩ := interleaves.exists_worker (Finset.mem_range.mp inside)
    apply worker.covered home
    rw [← program]
    exact ((List.take_prefix before.length trace).filter _).map _

/-- Together, workers release what they bind. -/
theorem even (interleaves : Interleaves home workers trace) (key : String) :
    unbindCount (trace.map (·.2)) key = bindCount (trace.map (·.2)) key := by
  rw [unbindCount, bindCount, countP_eq_sum _ interleaves.known, countP_eq_sum _ interleaves.known]
  apply Finset.sum_congr rfl
  intro position inside
  obtain ⟨worker, -, program⟩ := interleaves.exists_worker (Finset.mem_range.mp inside)
  rw [program]
  exact worker.even home key

end Interleaves

namespace Affinity

/-! ### Indexes that had no entries -/

section

variable {home : String → Nat} {slots : List Slot} {state : Affinity} {events : List BindingEvent}

theorem consistent_empty (unbound : ∀ slot ∈ slots, slot.boundKeys = 0) :
    Consistent ⟨slots, []⟩ where
  distinct := List.nodup_nil
  alive := by simp
  pooled := by simp
  counted := by
    intro slot
    by_cases inside : slot < slots.length
    · simpa [Slots.at, inside, keyCount] using unbound _ (List.getElem_mem inside)
    · rw [Slots.at_of_le (Nat.le_of_not_lt inside)]
      rfl

theorem settled_empty (unbound : ∀ slot ∈ slots, slot.boundKeys = 0)
    (steady : Steady home slots.length events) :
    ∃ state, perform ⟨slots, []⟩ events = .ok state ∧ Settled home ⟨slots, []⟩ events state :=
  settled_perform (consistent_empty unbound) (fun _ member => absurd member List.not_mem_nil) steady

theorem balance_empty (slots : List Slot) (events : List BindingEvent) (key : String) :
    balance ⟨slots, []⟩ events key = (bindCount events key : Int) - unbindCount events key := by
  simp [balance, refcount, Affinity.entry?]

theorem balance_ne_zero_iff {channels : Nat} (steady : Steady home channels events)
    (slots : List Slot) (key : String) :
    balance ⟨slots, []⟩ events key ≠ 0 ↔ unbindCount events key < bindCount events key := by
  have covered := steady.covered events (List.prefix_refl _) key
  rw [balance_empty]
  omega

theorem Settled.lookup_of_empty {channels : Nat} (settled : Settled home ⟨slots, []⟩ events state)
    (steady : Steady home channels events) (key : String) :
    state.lookup key =
      if unbindCount events key < bindCount events key then some (home key) else none := by
  have balanced := balance_ne_zero_iff steady slots key
  rw [lookup, settled.entry]
  by_cases more : unbindCount events key < bindCount events key
  · rw [if_pos more, if_neg (balanced.mpr more)]
    rfl
  · rw [if_neg more, if_pos (not_not.mp fun left => more (balanced.mp left))]
    rfl

theorem Settled.boundKeys_of_empty {channels : Nat}
    (settled : Settled home ⟨slots, []⟩ events state) (steady : Steady home channels events)
    (slot : Nat) :
    (Slots.at state.slots slot).boundKeys =
      ((events.map (·.key)).toFinset.filter fun key =>
        home key = slot ∧ unbindCount events key < bindCount events key).card := by
  have covers : ∀ key, Affinity.balance ⟨slots, []⟩ events key ≠ 0 →
      key ∈ (events.map (·.key)).toFinset := by
    intro key balanced
    have more := (balance_ne_zero_iff steady slots key).mp balanced
    obtain ⟨event, member, binds⟩ :=
      List.countP_pos_iff.mp (Nat.lt_of_le_of_lt (Nat.zero_le _) more)
    rw [List.mem_toFinset]
    refine List.mem_map.mpr ⟨event, member, ?_⟩
    cases event with
    | bind name slot => exact of_decide_eq_true binds
    | unbind name => cases binds
  rw [settled.boundKeys_eq_card slot covers]
  simp only [balance_ne_zero_iff steady]

/-- Workers that release what they bind leave an index as it was. -/
theorem perform_interleaved {start : Affinity} {workers : List Worker}
    {trace : List (Nat × BindingEvent)} (consistent : start.Consistent)
    (homed : ∀ entry ∈ start.entries, entry.slot = home entry.key)
    (pooled : ∀ worker ∈ workers, home worker.key < start.slots.length)
    (interleaves : Interleaves home workers trace) :
    start.perform (trace.map (·.2)) = .ok start := by
  obtain ⟨state, performed, settled⟩ := settled_perform consistent homed (interleaves.steady pooled)
  have even : ∀ key, start.balance (trace.map (·.2)) key = start.balance [] key := by
    intro key
    rw [balance, balance, interleaves.even key]
    simp [bindCount, unbindCount]
  rw [performed, settled.eq_of_balance consistent homed even]

end

/-! ### Any order -/

/-- What holds of binds and unbinds on some channels, when every key keeps to its home and
is never released more often than it was bound. -/
structure OrderIndependent (home : String → Nat) (slots : List Slot) : Prop where
  /-- None of them fails, a key has as many live bindings as it was bound more often than
  released and no entry if there are none, and a channel counts the keys at home there
  that have an entry.  Nothing else of a channel changes. -/
  settles : ∀ events, Steady home slots.length events →
    ∃ state, perform ⟨slots, []⟩ events = .ok state ∧
      (∀ key, state.refcount key = (bindCount events key : Int) - unbindCount events key) ∧
      (∀ key, state.lookup key =
        if unbindCount events key < bindCount events key then some (home key) else none) ∧
      (∀ slot, (Slots.at state.slots slot).boundKeys =
        ((events.map (·.key)).toFinset.filter fun key =>
          home key = slot ∧ unbindCount events key < bindCount events key).card) ∧
      SameLoad slots state.slots
  /-- The same events in another order lead to the same entries and counters. -/
  permuted : ∀ events others, Steady home slots.length events → Steady home slots.length others →
    events.Perm others →
      ∃ state other, perform ⟨slots, []⟩ events = .ok state ∧
        perform ⟨slots, []⟩ others = .ok other ∧
        other.slots = state.slots ∧ ∀ key, other.entry? key = state.entry? key
  /-- Workers that each bind a key and release it as often leave an index as it was,
  whatever entries it had and however their steps are interleaved. -/
  restored : ∀ start : Affinity, start.Consistent →
    (∀ entry ∈ start.entries, entry.slot = home entry.key) →
      ∀ workers trace, (∀ worker ∈ workers, home worker.key < start.slots.length) →
        Interleaves home workers trace → start.perform (trace.map (·.2)) = .ok start

/-- Binds and unbinds do not depend on their order. -/
theorem orderIndependent (home : String → Nat) {slots : List Slot}
    (unbound : ∀ slot ∈ slots, slot.boundKeys = 0) : OrderIndependent home slots := by
  constructor
  · intro events steady
    obtain ⟨state, performed, settled⟩ := settled_empty unbound steady
    have refcounts : ∀ key, state.refcount key =
        (bindCount events key : Int) - unbindCount events key := by
      intro key
      rw [settled.refcount, balance_empty]
    exact ⟨state, performed, refcounts, settled.lookup_of_empty steady,
      settled.boundKeys_of_empty steady, settled.load⟩
  · intro events others steady calm perm
    obtain ⟨state, performed, settled⟩ := settled_empty unbound steady
    obtain ⟨other, done, reached⟩ := settled_empty unbound calm
    refine ⟨state, other, performed, done, settled.same_of_balance reached ?_⟩
    intro key
    rw [balance, balance, bindCount, bindCount, unbindCount, unbindCount, perm.countP_eq,
      perm.countP_eq]
  · intro start consistent homed workers trace pooled interleaves
    exact perform_interleaved consistent homed pooled interleaves

/-- Two keys on two channels, one of which is released in the end. -/
theorem orderIndependent_two_channels :
    (∀ slot ∈ [Slot.fresh 0, Slot.fresh 1], slot.boundKeys = 0) ∧
      perform ⟨[Slot.fresh 0, Slot.fresh 1], []⟩
          [.bind "a" 0, .bind "b" 1, .bind "a" 0, .unbind "b", .unbind "a"] =
        .ok ⟨[⟨0, 0, 1⟩, ⟨1, 0, 0⟩], [⟨"a", 0, 1⟩]⟩ ∧
      OrderIndependent (fun key => if key = "b" then 1 else 0) [Slot.fresh 0, Slot.fresh 1] :=
  ⟨by decide, rfl, orderIndependent _ (by decide)⟩

end Affinity

end AffinityPool
