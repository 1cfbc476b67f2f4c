/-
Module: AffinityPool.Proofs.Affinity.Account
Purpose: The affinity index as an account of keys, in which a bind and an unbind are one posting
  each.
Main exports:
  Holding, Account, BindingEvent, Account.post, Account.conflict?, replay, Affinity.Shows,
  Affinity.Shows.bind, Affinity.Shows.unbind
-/
import AffinityPool.Proofs.Affinity.Consistent

namespace AffinityPool

/-! ### Accounts -/

/-- The channel a key is bound to, and how often. -/
structure Holding where
  slot : Nat
  count : Nat
deriving Repr, DecidableEq

/-- What is held for each key. -/
abbrev Account := String → Option Holding

/-- What a call does to a key when its exchange has succeeded. -/
inductive BindingEvent where
  | bind (key : String) (slot : Nat)
  | unbind (key : String)
deriving Repr, DecidableEq

/-- The key that an event is about. -/
def BindingEvent.key : BindingEvent → String
  | .bind key _ | .unbind key => key

namespace Account

/-- The account in which nothing is held. -/
def empty : Account := fun _ => none

/-- Set what is held for one key. -/
def set (account : Account) (key : String) (holding : Option Holding) : Account :=
  fun other => if other = key then holding else account other

/-- Post one event.  A bind of a key that another channel holds changes nothing,
and neither does an unbind of a key that nothing is held for. -/
def post (account : Account) : BindingEvent → Account
  | .bind key slot =>
      match account key with
      | none => account.set key (some ⟨slot, 1⟩)
      | some held =>
          if held.slot = slot then account.set key (some ⟨slot, held.count + 1⟩) else account
  | .unbind key =>
      match account key with
      | none => account
      | some held =>
          if held.count = 1 then account.set key none
          else account.set key (some ⟨held.slot, held.count - 1⟩)

/-- The failure of an event that cannot be posted: a bind of a key that another
channel holds. -/
def conflict? (account : Account) : BindingEvent → Option Failure
  | .bind key slot =>
      match account key with
      | none => none
      | some held =>
          if held.slot = slot then none else some (.bindingConflict key held.slot slot)
  | .unbind _ => none

end Account

/-- The account after some events, posted in order. -/
def replay (events : List BindingEvent) : Account := events.foldl Account.post .empty

namespace Affinity

/-! ### Entries after one change -/

/-- Counting anew shows in the entry of that key and in no other. -/
theorem entry_setRefcount (state : Affinity) (key other : String) (refcount : Int) :
    Affinity.entry? (state.setRefcount key refcount) other =
      if other = key then
        (state.entry? key).map fun entry => { entry with refcount := refcount }
      else state.entry? other := by
  unfold Affinity.entry? setRefcount
  rw [List.find?_map]
  have names : ((fun entry : Binding => decide (entry.key = other)) ∘ fun entry =>
      if entry.key = key then { entry with refcount := refcount } else entry) =
        fun entry => decide (entry.key = other) := by
    funext entry
    simp only [Function.comp_apply]
    split <;> rfl
  rw [names]
  by_cases same : other = key
  · subst same
    rw [if_pos rfl]
    apply Option.map_congr
    intro entry found
    have named : entry.key = other := by simpa using List.find?_some found
    rw [if_pos named]
  · rw [if_neg same]
    cases found : state.entries.find? fun entry => entry.key = other with
    | none => rfl
    | some entry =>
        have named : entry.key = other := by simpa using List.find?_some found
        simp [named, same]

/-- A new entry is found under its key, with one reference. -/
theorem entry_insert {state : Affinity} {key : String} (unbound : state.entry? key = none)
    (slot : Nat) (other : String) :
    Affinity.entry? (state.insert key slot) other =
      if other = key then some ⟨key, slot, 1⟩ else state.entry? other := by
  unfold Affinity.entry? Affinity.insert at *
  rw [List.find?_append]
  by_cases same : other = key
  · subst same
    simp [unbound]
  · simp [same, Ne.symm same]

/-- An entry that is erased is not found any more, and all others are. -/
theorem entry_erase (state : Affinity) (key other : String) :
    Affinity.entry? (state.erase key) other = if other = key then none else state.entry? other := by
  unfold Affinity.entry? erase
  rw [List.find?_filter]
  by_cases same : other = key
  · subst same
    simp
  · rw [if_neg same]
    apply congrArg (fun test => List.find? test state.entries)
    funext entry
    by_cases named : entry.key = other
    · simp [named, same]
    · simp [named]

/-! ### The index shows an account -/

/-- Every key has the entry that the account says. -/
def Shows (state : Affinity) (account : Account) : Prop :=
  ∀ key, ((state.entry? key).map fun entry => (entry.slot, entry.refcount)) =
    (account key).map fun held => (held.slot, (held.count : Int))

namespace Shows

variable {state : Affinity} {account : Account}

/-- A key without an entry has no account. -/
theorem absent (agrees : state.Shows account) {key : String} (unbound : state.entry? key = none) :
    account key = none := by
  have shown := agrees key
  rw [unbound] at shown
  exact Option.map_eq_none_iff.mp shown.symm

/-- The account of a key has the channel and the references of its entry. -/
theorem held (agrees : state.Shows account) {key : String} {entry : Binding}
    (found : state.entry? key = some entry) :
    ∃ count : Nat, account key = some ⟨entry.slot, count⟩ ∧ entry.refcount = count := by
  have shown := agrees key
  rw [found] at shown
  obtain ⟨⟨slot, count⟩, held, same⟩ := Option.map_eq_some_iff.mp shown.symm
  simp only [Prod.mk.injEq] at same
  obtain ⟨rfl, refcount⟩ := same
  exact ⟨count, held, refcount.symm⟩

/-- What an index shows depends on its entries only. -/
theorem of_entries (agrees : state.Shows account) {changed : Affinity}
    (same : changed.entries = state.entries) : changed.Shows account := by
  intro key
  unfold Affinity.entry?
  rw [same]
  exact agrees key

/-- Two states that differ in one key, as two accounts do. -/
private theorem set (agrees : state.Shows account) {key : String} {changed : Affinity}
    {entry : Option Binding} {holding : Option Holding}
    (entries : ∀ other, changed.entry? other = if other = key then entry else state.entry? other)
    (same : (entry.map fun entry => (entry.slot, entry.refcount)) =
      holding.map fun held => (held.slot, (held.count : Int))) :
    changed.Shows (account.set key holding) := by
  intro other
  rw [entries, Account.set]
  by_cases here : other = key
  · rw [if_pos here, if_pos here, same]
  · rw [if_neg here, if_neg here]
    exact agrees other

/-- Binding a key posts a bind.  It fails exactly if the account says that
another channel holds the key. -/
theorem bind (agrees : state.Shows account) (key : String) {slot : Nat}
    (consistent : state.Consistent) (pooled : slot < state.slots.length)
    (numbered : ∀ position < state.slots.length, state.number position = position) :
    (state.bind key slot).state.Shows (account.post (.bind key slot)) ∧
      ((state.bind key slot).result.map fun _ => ()) =
        ((account.conflict? (.bind key slot)).elim (.ok ()) .error) := by
  unfold Affinity.bind Account.post Account.conflict?
  cases found : state.entry? key with
  | none =>
      simp only [agrees.absent found]
      exact ⟨agrees.set (entry_insert found slot) rfl, rfl⟩
  | some entry =>
      obtain ⟨count, held, refcount⟩ := agrees.held found
      have inside := consistent.pooled entry (mem_of_found found)
      simp only [held]
      by_cases same : entry.slot = slot
      · simp only [same, if_true]
        refine ⟨agrees.set (entry_setRefcount state key · _) ?_, rfl⟩
        simp [found, same, refcount]
      · simp only [same, if_false, numbered _ pooled, numbered _ inside]
        exact ⟨agrees, rfl⟩

/-- Unbinding a key posts an unbind. -/
theorem unbind (agrees : state.Shows account) (key : String) (consistent : state.Consistent) :
    (state.unbind key).state.Shows (account.post (.unbind key)) ∧
      ((state.unbind key).result.map fun _ => ()) = .ok () := by
  constructor
  · unfold Affinity.unbind Account.post
    cases found : state.entry? key with
    | none =>
        simp only [agrees.absent found]
        exact agrees
    | some entry =>
        obtain ⟨count, held, refcount⟩ := agrees.held found
        have live := consistent.alive entry (mem_of_found found)
        have positive := consistent.boundKeys_pos (mem_of_found found)
        have alive : ¬entry.refcount ≤ 0 := by omega
        simp only [held, if_neg alive]
        by_cases last : count = 1
        · have gone : entry.refcount - 1 = 0 := by omega
          simp only [last, gone, if_true, Slot.loseKey, if_neg (Nat.ne_of_gt positive)]
          exact agrees.set (entry_erase state key) rfl
        · have left : ¬entry.refcount - 1 = 0 := by omega
          simp only [last, left, if_false]
          apply agrees.set (entry_setRefcount state key · _)
          have fewer : entry.refcount - 1 = ((count - 1 : Nat) : Int) := by omega
          simp [found, fewer]
  · obtain ⟨⟨remaining, released⟩, -⟩ := consistent.unbind key
    rw [released]
    rfl

end Shows

end Affinity

end AffinityPool
