/-
Module: AffinityPool.Text.Grid
Purpose: Characters in rows and cells.
Main exports:
  Grid, Grid.char?
-/

namespace AffinityPool.Text

/-- A row of characters from a first cell on.  The replacement character stands in
cells that are free. -/
structure Grid.Row where
  number : Nat
  first : Nat
  cells : String
deriving Repr, DecidableEq

/-- Characters by the number of a row and the number of a cell. -/
abbrev Grid := List Grid.Row

namespace Grid

/-- The character in a cell, if there is one. -/
def char? (grid : Grid) (row cell : Nat) : Option Char := do
  let row ← List.find? (·.number = row) grid
  let c ← if cell < row.first then none else row.cells.toList[cell - row.first]?
  if c = '\uFFFD' then none else some c

end Grid

end AffinityPool.Text
