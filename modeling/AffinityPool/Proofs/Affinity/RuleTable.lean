/-
Module: AffinityPool.Proofs.Affinity.RuleTable
Purpose: Which rules make a table, which of them is refused otherwise, and what a table finds.
Main exports:
  RuleTable.Fitting, RuleTable.Refused, RuleTable.build_eq_ok_iff, RuleTable.build_eq_error_iff,
  RuleTable.ruleFor_eq_some_iff
-/
import AffinityPool.Affinity.Rule
import Mathlib.Data.List.Induction
import Mathlib.Data.List.Nodup

namespace AffinityPool.RuleTable

/-!
A table is built by one scan over the rules, which stops at the first rule that does not fit
behind those in front of it.  So there is a table exactly if the rules fit as a whole, the order
of the rules matters for nothing but which of them is refused, and a table finds a rule exactly if
the rule was given.
-/

/-- Rules that can stand in one table: no method has two, and every key path can be read. -/
structure Fitting (rules : List Rule) : Prop where
  distinct : (rules.map Rule.method).Nodup
  readable : ∀ rule ∈ rules, ∃ segments, KeyPath.parse rule.keyPath = .ok segments

/-- Why a rule is refused behind others.  A method that has a rule already is told first. -/
inductive Refused (before : List Rule) (rule : Rule) : Failure → Prop where
  | repeated (known : rule.method ∈ before.map Rule.method) :
      Refused before rule (.duplicateRule rule.method)
  | unreadable (fault : KeyPath.Fault) (fresh : rule.method ∉ before.map Rule.method)
      (faulty : KeyPath.parse rule.keyPath = .error fault) :
      Refused before rule (.faultyRule rule.method fault)

variable {rules : List Rule} {rule : Rule} {table next : RuleTable} {failure : Failure}

/-! ### One rule more -/

/-- A method has a rule if it is the method of one. -/
theorem isSome_ruleFor (table : RuleTable) (method : String) :
    (table.ruleFor method).isSome = true ↔ method ∈ table.rules.map Rule.method := by
  simp [ruleFor]

/-- A rule is added if its method has none yet and its path can be parsed. -/
theorem add_eq_ok_iff :
    table.add rule = .ok next ↔
      rule.method ∉ table.rules.map Rule.method ∧
        (∃ segments, KeyPath.parse rule.keyPath = .ok segments) ∧
          next = ⟨table.rules ++ [rule]⟩ := by
  unfold add
  by_cases known : rule.method ∈ table.rules.map Rule.method
  · rw [if_pos ((isSome_ruleFor table _).mpr known)]
    simp [known]
  · rw [if_neg fun found => known ((isSome_ruleFor table _).mp found)]
    cases KeyPath.parse rule.keyPath with
    | error fault => simp
    | ok segments => simp [known, eq_comm]

/-- A rule is refused for one of two reasons. -/
theorem add_eq_error_iff : table.add rule = .error failure ↔ Refused table.rules rule failure := by
  unfold add
  constructor
  · intro refused
    split at refused
    · rename_i known
      cases refused
      exact .repeated ((isSome_ruleFor table _).mp known)
    · rename_i fresh
      cases parsed : KeyPath.parse rule.keyPath with
      | error fault =>
          rw [parsed] at refused
          cases refused
          exact .unreadable fault (fun known => fresh ((isSome_ruleFor table _).mpr known)) parsed
      | ok segments =>
          rw [parsed] at refused
          cases refused
  · rintro (known | ⟨fault, fresh, faulty⟩)
    · rw [if_pos ((isSome_ruleFor table _).mpr known)]
    · rw [if_neg fun found => fresh ((isSome_ruleFor table _).mp found), faulty]

/-! ### All rules -/

/-- The last rule is added to the table of those before it. -/
theorem build_append_singleton (rules : List Rule) (rule : Rule) :
    build (rules ++ [rule]) = build rules >>= fun table => table.add rule := by
  simp [build, List.foldlM_append]

theorem Fitting.nil : Fitting [] := ⟨by simp, by simp⟩

/-- Whether rules fit does not depend on their order. -/
theorem Fitting.of_perm {one two : List Rule} (fitting : Fitting one) (same : one.Perm two) :
    Fitting two :=
  ⟨(same.map _).nodup_iff.mp fitting.distinct,
    fun rule member => fitting.readable rule (same.mem_iff.mpr member)⟩

/-- One rule more fits if it is the first of its method and its path can be parsed. -/
theorem fitting_append_singleton_iff :
    Fitting (rules ++ [rule]) ↔
      Fitting rules ∧ rule.method ∉ rules.map Rule.method ∧
        ∃ segments, KeyPath.parse rule.keyPath = .ok segments := by
  constructor
  · rintro ⟨distinct, readable⟩
    rw [List.map_append, List.map_singleton, List.nodup_append] at distinct
    obtain ⟨one, -, apart⟩ := distinct
    refine ⟨⟨one, fun other member => readable other (by simp [member])⟩, fun known => ?_,
      readable rule (by simp)⟩
    exact apart _ known _ (List.mem_singleton_self _) rfl
  · rintro ⟨⟨distinct, readable⟩, fresh, parsed⟩
    constructor
    · rw [List.map_append, List.map_singleton, List.nodup_append]
      refine ⟨distinct, List.nodup_singleton _, fun one known other same => ?_⟩
      rintro rfl
      exact fresh (List.mem_singleton.mp same ▸ known)
    · intro other member
      rcases List.mem_append.mp member with before | last
      · exact readable other before
      · exact List.mem_singleton.mp last ▸ parsed

/-- There is a table exactly if the rules fit, and then it holds them as they are. -/
theorem build_eq_ok_iff : build rules = .ok table ↔ Fitting rules ∧ table = ⟨rules⟩ := by
  induction rules using List.reverseRecOn generalizing table with
  | nil =>
      have empty : build [] = .ok ⟨[]⟩ := rfl
      simp [empty, Fitting.nil, eq_comm]
  | append_singleton rules rule ih =>
      rw [build_append_singleton, fitting_append_singleton_iff]
      cases built : build rules with
      | error failure =>
          have unfit : ¬Fitting rules := fun fitting => by
            have := ih.mpr ⟨fitting, rfl⟩
            rw [built] at this
            cases this
          simp [unfit, bind, Except.bind]
      | ok before =>
          obtain ⟨fitting, rfl⟩ := ih.mp built
          simp only [bind, Except.bind, add_eq_ok_iff, fitting, true_and, and_assoc]

/-- Otherwise the first rule is refused that does not fit behind those in front of it. -/
theorem build_eq_error_iff :
    build rules = .error failure ↔
      ∃ before rule after, rules = before ++ rule :: after ∧ Fitting before ∧
        Refused before rule failure := by
  constructor
  · intro refused
    induction rules using List.reverseRecOn with
    | nil => cases refused
    | append_singleton rules last ih =>
        rw [build_append_singleton] at refused
        cases built : build rules with
        | error earlier =>
            rw [built] at refused
            obtain ⟨before, rule, after, rfl, fitting, why⟩ := ih (built.trans refused)
            exact ⟨before, rule, after ++ [last], by simp, fitting, why⟩
        | ok table =>
            obtain ⟨fitting, rfl⟩ := build_eq_ok_iff.mp built
            rw [built] at refused
            exact ⟨rules, last, [], rfl, fitting, add_eq_error_iff.mp refused⟩
  · rintro ⟨before, rule, after, rfl, fitting, why⟩
    have built : before.foldlM add empty = .ok ⟨before⟩ := build_eq_ok_iff.mpr ⟨fitting, rfl⟩
    have stops : add ⟨before⟩ rule = .error failure := add_eq_error_iff.mpr why
    rw [build, List.foldlM_append, built]
    simp [bind, Except.bind, stops]

/-! ### What a table finds -/

/-- A rule that is refused is told about as a matter of settings. -/
theorem Refused.isConfiguration {before : List Rule} (refused : Refused before rule failure) :
    failure.isConfiguration = true := by
  cases refused <;> rfl

/-- A table finds the rules that it holds, each for its method. -/
theorem ruleFor_eq_some_iff (distinct : (rules.map Rule.method).Nodup) {method : String} :
    (RuleTable.mk rules).ruleFor method = some rule ↔ rule ∈ rules ∧ rule.method = method := by
  constructor
  · intro found
    exact ⟨List.mem_of_find?_eq_some found, by simpa using List.find?_some found⟩
  · rintro ⟨member, rfl⟩
    cases found : (RuleTable.mk rules).ruleFor rule.method with
    | none =>
        have missing := List.find?_eq_none.mp found rule member
        exact absurd (decide_eq_true rfl) missing
    | some other =>
        have same : other.method = rule.method := by simpa using List.find?_some found
        rw [List.inj_on_of_nodup_map distinct (List.mem_of_find?_eq_some found) member same]

/-- A method has no rule if it is the method of none. -/
theorem ruleFor_eq_none_iff {method : String} :
    table.ruleFor method = none ↔ method ∉ table.rules.map Rule.method := by
  rw [← isSome_ruleFor]
  simp

end AffinityPool.RuleTable
