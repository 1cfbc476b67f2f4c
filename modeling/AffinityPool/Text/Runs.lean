/-
Module: AffinityPool.Text.Runs
Purpose: Sets of characters given as runs of code points.
Main exports:
  inRuns
-/

namespace AffinityPool.Text

/-- Whether a character lies in one of several runs, each with its first and its
last code point. -/
def inRuns (runs : List (Nat × Nat)) (c : Char) : Bool :=
  runs.any fun run => run.1 ≤ c.toNat && c.toNat ≤ run.2

end AffinityPool.Text
