/-
Module: AffinityPool.Settings.Basic
Purpose: Settings of a channel: the pool's bounds and the rules of the methods.
Main exports:
  KeyRule, MethodEntry, PoolBounds, Settings, Settings.rules
-/
import AffinityPool.Affinity.Rule

namespace AffinityPool

namespace Settings

/-- What a group of methods does to the affinity index, and where its key is. -/
structure KeyRule where
  command : Command
  keyPath : String
deriving Repr, DecidableEq

/-- The rule shared by one or more methods; without one they are routed by
load. -/
structure MethodEntry where
  methods : List String
  rule : Option KeyRule
deriving Repr, DecidableEq

/-- The bounds of the pool. -/
structure PoolBounds where
  maxSize : Int
  ceiling : Int
deriving Repr, DecidableEq

/-- The bounds of settings that name none. -/
def PoolBounds.standard : PoolBounds := ⟨10, 100⟩

end Settings

/-- The settings of a channel. -/
structure Settings where
  bounds : Settings.PoolBounds
  entries : List Settings.MethodEntry
deriving Repr, DecidableEq

namespace Settings

/-- Settings that name nothing. -/
def standard : Settings := ⟨PoolBounds.standard, []⟩

/-- The rules of one entry, one for each of its methods. -/
def MethodEntry.rules (entry : MethodEntry) : List Rule :=
  match entry.rule with
  | none => []
  | some rule => entry.methods.map fun method => ⟨method, rule.command, rule.keyPath⟩

/-- The rules of the settings in document order. -/
def rules (settings : Settings) : List Rule := settings.entries.flatMap MethodEntry.rules

/-- The rule table of the settings. -/
def table (settings : Settings) : Except Failure RuleTable := RuleTable.build settings.rules

end Settings

end AffinityPool
