/-
Module: AffinityPool.Proofs.Settings.Table
Purpose: When the entries of settings make a rule table, and what the table then says.
Main exports:
  Settings.ruled, Settings.named, Settings.Tabled, Settings.tabled
-/
import AffinityPool.Proofs.Affinity.RuleTable
import AffinityPool.Settings.Basic
import Mathlib.Data.List.Perm.Basic

namespace AffinityPool.Settings

/-!
Entries without a rule say nothing to the table.  The others are spread out, one rule for each
name, and the table is built from those.  Whether it can be built, and what it finds, depends on
the rules as a collection only, so the entries may be put in any other order.
-/

/-- The entries that have a rule. -/
def ruled (settings : Settings) : List MethodEntry :=
  settings.entries.filter fun entry => entry.rule.isSome

/-- The names of methods that entries with a rule list, in document order. -/
def named (settings : Settings) : List String := settings.ruled.flatMap MethodEntry.methods

variable {settings other : Settings}

/-! ### The rules of settings -/

/-- An entry with a rule gives each of its methods that rule. -/
theorem MethodEntry.rules_of_rule_eq_some {entry : MethodEntry} {rule : KeyRule}
    (held : entry.rule = some rule) :
    entry.rules = entry.methods.map fun method => ⟨method, rule.command, rule.keyPath⟩ := by
  rw [rules, held]

/-- An entry without a rule gives none. -/
theorem MethodEntry.rules_of_rule_eq_none {entry : MethodEntry} (bare : entry.rule = none) :
    entry.rules = [] := by
  rw [rules, bare]

/-- Entries without a rule can be left out. -/
theorem rules_eq_flatMap_ruled (settings : Settings) :
    settings.rules = settings.ruled.flatMap MethodEntry.rules := by
  unfold rules ruled
  induction settings.entries with
  | nil => rfl
  | cons entry entries ih =>
      rw [List.flatMap_cons, ih]
      cases held : entry.rule with
      | none => simp [entry.rules_of_rule_eq_none held, held]
      | some rule => simp [held]

/-- The methods that have rules are those that are named in entries with one. -/
theorem map_method_rules (settings : Settings) :
    settings.rules.map Rule.method = settings.named := by
  rw [rules_eq_flatMap_ruled, List.map_flatMap, named]
  refine List.flatMap_congr fun entry member => ?_
  obtain ⟨rule, held⟩ := Option.isSome_iff_exists.mp (List.mem_filter.mp member).2
  simp [entry.rules_of_rule_eq_some held, Function.comp_def]

/-- A rule comes from an entry that has one and lists its method. -/
theorem mem_rules_iff {rule : Rule} :
    rule ∈ settings.rules ↔
      ∃ entry ∈ settings.entries, ∃ held, entry.rule = some held ∧
        ∃ method ∈ entry.methods, rule = ⟨method, held.command, held.keyPath⟩ := by
  rw [rules, List.mem_flatMap]
  refine exists_congr fun entry => and_congr_right fun _ => ?_
  cases held : entry.rule with
  | none => simp [entry.rules_of_rule_eq_none held]
  | some rule => simp [entry.rules_of_rule_eq_some held, eq_comm]

/-- A method is named if an entry with a rule lists it. -/
theorem mem_named_iff {method : String} :
    method ∈ settings.named ↔
      ∃ entry ∈ settings.entries, entry.rule.isSome ∧ method ∈ entry.methods := by
  simp [named, ruled, and_assoc]

/-- The rules fit if no name is listed twice and the key paths of the entries can be read.  The key
path of an entry that lists nothing does not count. -/
theorem fitting_rules_iff :
    RuleTable.Fitting settings.rules ↔
      settings.named.Nodup ∧ ∀ entry ∈ settings.entries, ∀ rule, entry.rule = some rule →
        entry.methods ≠ [] → ∃ segments, KeyPath.parse rule.keyPath = .ok segments := by
  constructor
  · rintro ⟨distinct, readable⟩
    refine ⟨by rwa [← map_method_rules], fun entry member rule held listed => ?_⟩
    obtain ⟨method, methods, lists⟩ := List.exists_cons_of_ne_nil listed
    exact readable ⟨method, rule.command, rule.keyPath⟩
      (mem_rules_iff.mpr ⟨entry, member, rule, held, method, by simp [lists], rfl⟩)
  · rintro ⟨distinct, readable⟩
    refine ⟨by rwa [map_method_rules], fun rule member => ?_⟩
    obtain ⟨entry, among, held, has, method, listed, rfl⟩ := mem_rules_iff.mp member
    exact readable entry among held has (List.ne_nil_of_mem listed)

/-! ### The table -/

/-- A table can be made, and it holds the rules of the settings. -/
theorem table_eq_ok_iff {table : RuleTable} :
    settings.table = .ok table ↔ RuleTable.Fitting settings.rules ∧ table = ⟨settings.rules⟩ :=
  RuleTable.build_eq_ok_iff

/-- There is a table of the rules of settings exactly if they fit together. -/
theorem exists_table_iff :
    (∃ table, settings.table = .ok table) ↔ RuleTable.Fitting settings.rules := by
  simp [table_eq_ok_iff]

/-- The order of the entries that have a rule is the order of the rules and no more. -/
theorem perm_rules (same : other.ruled.Perm settings.ruled) : other.rules.Perm settings.rules := by
  rw [rules_eq_flatMap_ruled, rules_eq_flatMap_ruled]
  exact same.flatMap_right _

/-- A name that is listed is listed by one entry alone. -/
theorem exists_entry_of_named {method : String} (distinct : settings.named.Nodup)
    (listed : method ∈ settings.named) :
    ∃ before entry after rule, settings.entries = before ++ entry :: after ∧
      entry.rule = some rule ∧ method ∈ entry.methods ∧
      ∀ another ∈ before ++ after, another.rule.isSome → method ∉ another.methods := by
  obtain ⟨entry, member, has, lists⟩ := mem_named_iff.mp listed
  obtain ⟨rule, held⟩ := Option.isSome_iff_exists.mp has
  obtain ⟨before, after, split⟩ := List.append_of_mem member
  refine ⟨before, entry, after, rule, split, held, lists, ?_⟩
  intro another elsewhere ruled listsToo
  have spread : settings.named =
      (before.filter fun entry => entry.rule.isSome).flatMap MethodEntry.methods ++
        (entry.methods ++
          (after.filter fun entry => entry.rule.isSome).flatMap MethodEntry.methods) := by
    simp [named, Settings.ruled, split, held]
  have inPart : ∀ part : List MethodEntry, another ∈ part →
      method ∈ (part.filter fun entry => entry.rule.isSome).flatMap MethodEntry.methods :=
    fun part among =>
      List.mem_flatMap.mpr ⟨another, List.mem_filter.mpr ⟨among, ruled⟩, listsToo⟩
  rw [spread, List.nodup_append, List.nodup_append] at distinct
  obtain ⟨-, ⟨-, -, apart⟩, apartBefore⟩ := distinct
  rcases List.mem_append.mp elsewhere with inBefore | inAfter
  · exact apartBefore method (inPart before inBefore) method (List.mem_append_left _ lists) rfl
  · exact apart method lists method (inPart after inAfter) rfl

/-- What the rule table of settings is. -/
structure Tabled (settings : Settings) : Prop where
  /-- Where every entry lists a method, there is a table exactly if no two of the names listed by
  entries with a rule are the same and the key path of every rule can be read. -/
  accepted : (∀ entry ∈ settings.entries, entry.methods ≠ []) →
    ((∃ table, settings.table = .ok table) ↔
      settings.named.Nodup ∧ ∀ entry ∈ settings.entries, ∀ rule, entry.rule = some rule →
        ∃ segments, KeyPath.parse rule.keyPath = .ok segments)
  /-- A method finds the rule of the only entry with a rule that lists it. -/
  found : ∀ table, settings.table = .ok table → ∀ method ∈ settings.named,
    ∃ before entry after rule, settings.entries = before ++ entry :: after ∧
      entry.rule = some rule ∧ method ∈ entry.methods ∧
      (∀ another ∈ before ++ after, another.rule.isSome → method ∉ another.methods) ∧
      table.ruleFor method = some ⟨method, rule.command, rule.keyPath⟩
  /-- A method that no entry with a rule lists finds nothing. -/
  missing : ∀ table, settings.table = .ok table → ∀ method,
    (∀ entry ∈ settings.entries, entry.rule.isSome → method ∉ entry.methods) →
      table.ruleFor method = none
  /-- The methods of the table come in document order. -/
  ordered : ∀ table, settings.table = .ok table → table.methods = settings.named
  /-- If there is no table, the first rule is told that has the method of an earlier one or else a
  key path that cannot be read. -/
  refused : ∀ failure, settings.table = .error failure → failure.isConfiguration = true ∧
    ∃ before rule after, settings.rules = before ++ rule :: after ∧
      RuleTable.Fitting before ∧ RuleTable.Refused before rule failure
  /-- Settings with the same entries that have a rule, in whatever order, and with any entries that
  have none, have a table or not alike, and the tables find the same. -/
  unordered : ∀ other : Settings, other.ruled.Perm settings.ruled →
    ((∃ table, other.table = .ok table) ↔ ∃ table, settings.table = .ok table) ∧
      ∀ one two, other.table = .ok one → settings.table = .ok two →
        ∀ method, one.ruleFor method = two.ruleFor method

/-- The rules of any settings are tabled as the entries say. -/
theorem tabled (settings : Settings) : Tabled settings where
  accepted listed := by
    rw [exists_table_iff, fitting_rules_iff]
    refine and_congr_right fun _ => forall₂_congr fun entry member => ?_
    simp [listed entry member]
  found table made method listed := by
    obtain ⟨fitting, rfl⟩ := table_eq_ok_iff.mp made
    have distinct := fitting.distinct
    rw [map_method_rules] at distinct
    obtain ⟨before, entry, after, rule, split, held, lists, alone⟩ :=
      exists_entry_of_named distinct listed
    refine ⟨before, entry, after, rule, split, held, lists, alone, ?_⟩
    refine (RuleTable.ruleFor_eq_some_iff fitting.distinct).mpr ⟨?_, rfl⟩
    exact mem_rules_iff.mpr ⟨entry, by simp [split], rule, held, method, lists, rfl⟩
  missing table made method unlisted := by
    obtain ⟨fitting, rfl⟩ := table_eq_ok_iff.mp made
    rw [RuleTable.ruleFor_eq_none_iff, map_method_rules, mem_named_iff]
    rintro ⟨entry, member, has, lists⟩
    exact unlisted entry member has lists
  ordered table made := by
    obtain ⟨-, rfl⟩ := table_eq_ok_iff.mp made
    exact map_method_rules settings
  refused failure unmade := by
    obtain ⟨before, rule, after, split, fitting, why⟩ := RuleTable.build_eq_error_iff.mp unmade
    exact ⟨why.isConfiguration, before, rule, after, split, fitting, why⟩
  unordered other same := by
    have rules := perm_rules same
    refine ⟨?_, fun one two madeOne madeTwo method => ?_⟩
    · rw [exists_table_iff, exists_table_iff]
      exact ⟨fun fitting => fitting.of_perm rules, fun fitting => fitting.of_perm rules.symm⟩
    · obtain ⟨fitting, rfl⟩ := table_eq_ok_iff.mp madeOne
      obtain ⟨fittingToo, rfl⟩ := table_eq_ok_iff.mp madeTwo
      refine Option.ext fun rule => ?_
      rw [RuleTable.ruleFor_eq_some_iff fitting.distinct,
        RuleTable.ruleFor_eq_some_iff fittingToo.distinct, rules.mem_iff]

end AffinityPool.Settings
