/-
Module: AffinityPool.Session.Ledger
Purpose: Small tables of things kept by call.
Main exports:
  Ledger, Ledger.get?, Ledger.put, Ledger.drop, Ledger.get?_drop
-/
import AffinityPool.Hub.State

namespace AffinityPool

/-- Things kept by call, each call at most once, in the order of first
writing. -/
abbrev Ledger (α : Type) := List (CallId × α)

namespace Ledger

variable {α : Type}

/-- What is kept for a call. -/
def get? (ledger : Ledger α) (id : CallId) : Option α := List.lookup id ledger

/-- Forget what is kept for a call. -/
def drop (ledger : Ledger α) (id : CallId) : Ledger α := ledger.filter (·.1 ≠ id)

/-- Keep something for a call, in place of what was kept for it. -/
def put (ledger : Ledger α) (id : CallId) (value : α) : Ledger α :=
  if (ledger.get? id).isSome then
    ledger.map fun entry => if entry.1 = id then (id, value) else entry
  else ledger ++ [(id, value)]

@[simp] theorem get?_nil (id : CallId) : get? ([] : Ledger α) id = none := rfl

theorem get?_cons (key id : CallId) (value : α) (rest : Ledger α) :
    get? ((key, value) :: rest) id = if id = key then some value else get? rest id := by
  unfold get?
  rw [List.lookup_cons]
  by_cases same : id = key
  · simp [same]
  · have differs : (id == key) = false := by simp [same]
    rw [differs, if_neg same]

/-- What was dropped is gone, and everything else is still there. -/
theorem get?_drop (ledger : Ledger α) (dropped id : CallId) :
    (ledger.drop dropped).get? id = if id = dropped then none else ledger.get? id := by
  induction ledger with
  | nil => simp [drop]
  | cons entry rest ih =>
      obtain ⟨key, value⟩ := entry
      by_cases gone : key = dropped
      · have : drop ((key, value) :: rest) dropped = drop rest dropped := by simp [drop, gone]
        rw [this, ih, get?_cons, gone]
        split <;> rfl
      · have : drop ((key, value) :: rest) dropped = (key, value) :: drop rest dropped := by
          simp [drop, gone]
        rw [this, get?_cons, ih, get?_cons]
        by_cases same : id = key
        · simp [same, gone]
        · simp [same]

end Ledger

end AffinityPool
