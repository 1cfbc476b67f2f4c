/-
Module: AffinityPool.Proofs.Ledger.Agreement
Purpose: What writing and forgetting do to tables kept by call, and tables that name the same
  calls in the same order.
Main exports:
  Ledger.Distinct, Ledger.count, Ledger.Agree, Ledger.get?_put, Ledger.count_put_known,
  Ledger.count_drop_known, Ledger.Agree.put, Ledger.Agree.drop
-/
import AffinityPool.Session.Ledger
import Mathlib.Data.List.Forall2

namespace AffinityPool.Ledger

variable {α β : Type}

/-- No call stands in a ledger twice. -/
def Distinct (ledger : Ledger α) : Prop := (ledger.map (·.1)).Nodup

/-- How many calls have something kept for them that passes a test. -/
def count (test : α → Bool) (ledger : Ledger α) : Nat := ledger.countP fun entry => test entry.2

theorem count_true (ledger : Ledger α) : ledger.count (fun _ => true) = ledger.length := by
  simp [count]

/-- A name is unknown if nothing is kept under it. -/
theorem get?_eq_none_iff {ledger : Ledger α} {id : CallId} :
    ledger.get? id = none ↔ ∀ entry ∈ ledger, entry.1 ≠ id := by
  induction ledger with
  | nil => simp
  | cons entry rest ih =>
      obtain ⟨key, value⟩ := entry
      rw [get?_cons]
      by_cases same : id = key
      · simp [same]
      · simp [same, ih, Ne.symm same]

/-- What is kept for a call stands at one place of a ledger without
repetitions. -/
theorem split_of_get? {ledger : Ledger α} {id : CallId} {value : α}
    (kept : ledger.get? id = some value) (distinct : ledger.Distinct) :
    ∃ before after, ledger = before ++ (id, value) :: after ∧
      (∀ entry ∈ before, entry.1 ≠ id) ∧ ∀ entry ∈ after, entry.1 ≠ id := by
  induction ledger with
  | nil => simp at kept
  | cons entry rest ih =>
      obtain ⟨key, first⟩ := entry
      obtain ⟨absent, restDistinct⟩ := List.nodup_cons.mp distinct
      rw [get?_cons] at kept
      by_cases same : id = key
      · subst same
        simp only [if_true, Option.some.injEq] at kept
        subst kept
        refine ⟨[], rest, rfl, by simp, ?_⟩
        intro entry member equal
        exact absent (List.mem_map.mpr ⟨entry, member, equal⟩)
      · simp only [if_neg same] at kept
        obtain ⟨before, after, rfl, clearBefore, clearAfter⟩ := ih kept restDistinct
        refine ⟨(key, first) :: before, after, rfl, ?_, clearAfter⟩
        intro entry member
        rcases List.mem_cons.mp member with rfl | later
        · exact Ne.symm same
        · exact clearBefore entry later

/-- Whatever stands in a ledger without repetitions is what is kept. -/
theorem get?_of_mem {ledger : Ledger α} {id : CallId} {value : α} (distinct : ledger.Distinct)
    (member : (id, value) ∈ ledger) : ledger.get? id = some value := by
  induction ledger with
  | nil => cases member
  | cons entry rest ih =>
      obtain ⟨key, first⟩ := entry
      obtain ⟨absent, restDistinct⟩ := List.nodup_cons.mp distinct
      rw [get?_cons]
      rcases List.mem_cons.mp member with same | later
      · cases same
        rw [if_pos rfl]
      · have differs : id ≠ key := by
          rintro rfl
          exact absent (List.mem_map.mpr ⟨_, later, rfl⟩)
        rw [if_neg differs]
        exact ih restDistinct later

private theorem replace_of_clear {part : Ledger α} {id : CallId} (value : α)
    (clear : ∀ entry ∈ part, entry.1 ≠ id) :
    part.map (fun entry => if entry.1 = id then (id, value) else entry) = part := by
  conv_rhs => rw [← List.map_id part]
  apply List.map_congr_left
  intro entry member
  simp [clear entry member]

/-- Writing over what is kept for a call leaves the rest in place. -/
theorem put_split {before after : Ledger α} {id : CallId} {old : α} (new : α)
    (clearBefore : ∀ entry ∈ before, entry.1 ≠ id) (clearAfter : ∀ entry ∈ after, entry.1 ≠ id) :
    put (before ++ (id, old) :: after) id new = before ++ (id, new) :: after := by
  have known : (get? (before ++ (id, old) :: after) id).isSome = true := by
    rw [Option.isSome_iff_ne_none, Ne, get?_eq_none_iff]
    intro clear
    exact clear (id, old) (by simp) rfl
  rw [put, if_pos known, List.map_append, List.map_cons, replace_of_clear new clearBefore,
    replace_of_clear new clearAfter, if_pos rfl]

/-- Forgetting a call takes its entry out and leaves the rest in place. -/
theorem drop_split {before after : Ledger α} {id : CallId} (old : α)
    (clearBefore : ∀ entry ∈ before, entry.1 ≠ id) (clearAfter : ∀ entry ∈ after, entry.1 ≠ id) :
    drop (before ++ (id, old) :: after) id = before ++ after := by
  have kept : ∀ {part : Ledger α}, (∀ entry ∈ part, entry.1 ≠ id) →
      part.filter (fun entry => decide (entry.1 ≠ id)) = part := by
    intro part clear
    exact List.filter_eq_self.mpr fun entry member => by simpa using clear entry member
  rw [drop, List.filter_append, List.filter_cons, kept clearBefore, kept clearAfter]
  simp

/-- What is kept under a new name stands at the end. -/
theorem put_of_unknown {ledger : Ledger α} {id : CallId} (value : α)
    (unknown : ledger.get? id = none) : ledger.put id value = ledger ++ [(id, value)] := by
  simp [put, unknown]

/-- Nothing is lost when an unknown name is dropped. -/
theorem drop_of_unknown {ledger : Ledger α} {id : CallId} (unknown : ledger.get? id = none) :
    ledger.drop id = ledger := by
  apply List.filter_eq_self.mpr
  intro entry member
  simpa using get?_eq_none_iff.mp unknown entry member

/-- Writing twice for a new call is writing once. -/
theorem put_put_of_unknown {ledger : Ledger α} {id : CallId} (first second : α)
    (unknown : ledger.get? id = none) :
    (ledger.put id first).put id second = ledger.put id second := by
  have clear := get?_eq_none_iff.mp unknown
  rw [put_of_unknown first unknown, put_of_unknown second unknown]
  exact put_split second clear fun entry member => absurd member List.not_mem_nil

/-- Writing what is kept already changes nothing. -/
theorem put_self {ledger : Ledger α} {id : CallId} {value : α}
    (kept : ledger.get? id = some value) (distinct : ledger.Distinct) :
    ledger.put id value = ledger := by
  obtain ⟨before, after, rfl, clearBefore, clearAfter⟩ := split_of_get? kept distinct
  exact put_split value clearBefore clearAfter

/-- What was written for a call is kept, and everything else is still there. -/
theorem get?_put (ledger : Ledger α) (written id : CallId) (value : α) :
    (ledger.put written value).get? id = if id = written then some value else ledger.get? id := by
  induction ledger with
  | nil => simp [put, get?_cons]
  | cons entry rest ih =>
      obtain ⟨key, old⟩ := entry
      by_cases first : written = key
      · subst first
        have known : (get? ((written, old) :: rest) written).isSome = true := by
          simp [get?_cons]
        rw [put, if_pos known, List.map_cons, if_pos rfl, get?_cons, get?_cons]
        by_cases same : id = written
        · simp [same]
        · simp only [if_neg same]
          have later : get? (rest.map fun entry =>
              if entry.1 = written then (written, value) else entry) id = get? rest id := by
            clear ih known
            induction rest with
            | nil => rfl
            | cons other others inner =>
                obtain ⟨otherKey, otherValue⟩ := other
                by_cases hit : otherKey = written
                · simp [get?_cons, hit, same, inner]
                · simp [get?_cons, hit, inner]
          exact later
      · have onward : put ((key, old) :: rest) written value =
            (key, old) :: put rest written value := by
          have lookup : get? ((key, old) :: rest) written = get? rest written := by
            rw [get?_cons, if_neg first]
          by_cases known : (get? rest written).isSome = true
          · simp [put, lookup, known, Ne.symm first]
          · simp [put, lookup, known]
        rw [onward, get?_cons, ih, get?_cons]
        by_cases here : id = key
        · subst here
          simp [Ne.symm first]
        · simp [here]

/-- What was written last is found. -/
theorem get?_put_self (ledger : Ledger α) (id : CallId) (value : α) :
    (ledger.put id value).get? id = some value := by
  rw [get?_put, if_pos rfl]

/-! ### Repetitions and counts -/

/-- Names stay distinct when one is dropped. -/
theorem distinct_drop {ledger : Ledger α} (distinct : ledger.Distinct) (id : CallId) :
    (ledger.drop id).Distinct :=
  (List.Sublist.map _ List.filter_sublist).nodup distinct

/-- Names stay distinct when something is written under one. -/
theorem distinct_put {ledger : Ledger α} (distinct : ledger.Distinct) (id : CallId) (value : α) :
    (ledger.put id value).Distinct := by
  cases known : ledger.get? id with
  | none =>
      rw [put_of_unknown value known, Distinct, List.map_append, List.nodup_append]
      refine ⟨distinct, by simp, ?_⟩
      intro one member other there
      obtain ⟨entry, entryMember, rfl⟩ := List.mem_map.mp member
      simp only [List.map_cons, List.map_nil, List.mem_singleton] at there
      subst there
      exact get?_eq_none_iff.mp known entry entryMember
  | some old =>
      obtain ⟨before, after, rfl, clearBefore, clearAfter⟩ := split_of_get? known distinct
      rw [put_split value clearBefore clearAfter]
      simpa [Distinct] using distinct

/-- A new name counts if what is kept under it does. -/
theorem count_put_unknown {ledger : Ledger α} {id : CallId} (test : α → Bool) (value : α)
    (unknown : ledger.get? id = none) :
    (ledger.put id value).count test = ledger.count test + if test value then 1 else 0 := by
  rw [put_of_unknown value unknown]
  simp [count, List.countP_append, List.countP_cons]

/-- What is written under a known name counts in place of what was there. -/
theorem count_put_known {ledger : Ledger α} {id : CallId} {old : α} (test : α → Bool) (new : α)
    (known : ledger.get? id = some old) (distinct : ledger.Distinct) :
    (ledger.put id new).count test + (if test old then 1 else 0) =
      ledger.count test + if test new then 1 else 0 := by
  obtain ⟨before, after, rfl, clearBefore, clearAfter⟩ := split_of_get? known distinct
  rw [put_split new clearBefore clearAfter]
  simp only [count, List.countP_append, List.countP_cons]
  omega

/-- What is dropped does not count any more. -/
theorem count_drop_known {ledger : Ledger α} {id : CallId} {old : α} (test : α → Bool)
    (known : ledger.get? id = some old) (distinct : ledger.Distinct) :
    (ledger.drop id).count test + (if test old then 1 else 0) = ledger.count test := by
  obtain ⟨before, after, rfl, clearBefore, clearAfter⟩ := split_of_get? known distinct
  rw [drop_split old clearBefore clearAfter]
  simp only [count, List.countP_append, List.countP_cons]
  omega

/-- A call that something passing the test is kept for is counted. -/
theorem count_pos_of_get? {ledger : Ledger α} {id : CallId} {value : α} {test : α → Bool}
    (known : ledger.get? id = some value) (distinct : ledger.Distinct)
    (passes : test value = true) : 0 < ledger.count test := by
  have dropped := count_drop_known test known distinct
  rw [if_pos passes] at dropped
  omega

/-! ### Agreement -/

/-- Two ledgers name the same calls in the same order, and what they keep for
each call is related. -/
def Agree (related : α → β → Prop) (left : Ledger α) (right : Ledger β) : Prop :=
  List.Forall₂ (fun one other => one.1 = other.1 ∧ related one.2 other.2) left right

namespace Agree

variable {related : α → β → Prop} {left : Ledger α} {right : Ledger β}

/-- A call is known to both ledgers or to none. -/
theorem lookup (agree : Agree related left right) (id : CallId) :
    (left.get? id = none ∧ right.get? id = none) ∨
      ∃ one other, left.get? id = some one ∧ right.get? id = some other ∧ related one other := by
  induction agree with
  | nil => exact Or.inl ⟨rfl, rfl⟩
  | @cons one other restLeft restRight head rest ih =>
      obtain ⟨key, value⟩ := one
      obtain ⟨otherKey, otherValue⟩ := other
      obtain ⟨rfl, values⟩ := head
      rw [get?_cons, get?_cons]
      by_cases same : id = key
      · exact Or.inr ⟨value, otherValue, by simp [same], by simp [same], values⟩
      · simpa [same] using ih

/-- What is known on the left is known on the right, and the two are related. -/
theorem get? (agree : Agree related left right) {id : CallId} {one : α}
    (known : left.get? id = some one) :
    ∃ other, right.get? id = some other ∧ related one other := by
  rcases agree.lookup id with ⟨unknown, -⟩ | ⟨same, other, found, foundRight, values⟩
  · rw [known] at unknown
    cases unknown
  · rw [known] at found
    cases found
    exact ⟨other, foundRight, values⟩

/-- What is unknown on the left is unknown on the right. -/
theorem get?_none (agree : Agree related left right) {id : CallId}
    (unknown : left.get? id = none) : right.get? id = none := by
  rcases agree.lookup id with ⟨-, absent⟩ | ⟨one, other, found, -, -⟩
  · exact absent
  · rw [unknown] at found
    cases found

private theorem replace (agree : Agree related left right) {id : CallId} {one : α} {other : β}
    (values : related one other) :
    Agree related (left.map fun entry => if entry.1 = id then (id, one) else entry)
      (right.map fun entry => if entry.1 = id then (id, other) else entry) := by
  induction agree with
  | nil => exact .nil
  | @cons here there restLeft restRight head rest ih =>
      obtain ⟨sameKey, sameValues⟩ := head
      refine .cons ?_ ih
      by_cases hit : there.1 = id
      · simp [sameKey, hit, values]
      · simp [sameKey, hit, sameValues]

/-- Writing related things for one call keeps two ledgers in agreement. -/
theorem put (agree : Agree related left right) {id : CallId} {one : α} {other : β}
    (values : related one other) : Agree related (left.put id one) (right.put id other) := by
  rcases agree.lookup id with ⟨absent, absentRight⟩ | ⟨_, _, found, foundRight, -⟩
  · rw [put_of_unknown one absent, put_of_unknown other absentRight]
    exact List.rel_append agree (.cons ⟨rfl, values⟩ .nil)
  · simpa [Ledger.put, found, foundRight] using agree.replace values

/-- Forgetting one call keeps two ledgers in agreement. -/
theorem drop (agree : Agree related left right) (id : CallId) :
    Agree related (left.drop id) (right.drop id) := by
  induction agree with
  | nil => exact .nil
  | @cons one other restLeft restRight head rest ih =>
      by_cases hit : other.1 = id
      · simpa [Ledger.drop, head.1, hit] using ih
      · have kept : Agree related (one :: Ledger.drop restLeft id)
            (other :: Ledger.drop restRight id) := .cons head ih
        simpa [Ledger.drop, head.1, hit] using kept

end Agree

end AffinityPool.Ledger
