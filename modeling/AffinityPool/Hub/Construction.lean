/-
Module: AffinityPool.Hub.Construction
Purpose: Hubs from rules and bounds, and from settings.
Main exports:
  Hub.make, Hub.ofSettings
-/
import AffinityPool.Hub.State
import AffinityPool.Settings.Basic

namespace AffinityPool.Hub

/-- A hub from rules and bounds.  The rules are checked first. -/
def make (rules : List Rule) (bounds : Settings.PoolBounds) : Except Failure Hub := do
  let table ← RuleTable.build rules
  let limits ← Limits.make bounds.maxSize bounds.ceiling
  .ok (fresh table limits)

/-- A hub from settings. -/
def ofSettings (settings : Settings) : Except Failure Hub := make settings.rules settings.bounds

end AffinityPool.Hub
