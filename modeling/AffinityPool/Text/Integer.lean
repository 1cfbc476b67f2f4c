/-
Module: AffinityPool.Text.Integer
Purpose: Integers written with digits of any script.
Main exports:
  integer?
-/
import AffinityPool.Text.Blank
import AffinityPool.Text.Digit
import AffinityPool.Text.Split

namespace AffinityPool.Text

/-- Digits with single underscores between some of them, without the
underscores. -/
def ungrouped? (chars : List Char) : Option (List Char) :=
  let groups := pieces '_' chars
  if groups.all fun group => !group.isEmpty && group.all isDecimal then some groups.flatten
  else none

/-- The number that digits in groups write. -/
def natural? (chars : List Char) : Option Nat := do
  let digits ← ungrouped? chars
  if maxIntegerDigits < digits.length then none else some (decimalNumber digits)

/-- The integer a text writes: blanks around it and one sign are allowed. -/
def integer? (chars : List Char) : Option Int :=
  match trimmed isSpacing chars with
  | '-' :: rest => (natural? rest).map fun n => -(n : Int)
  | '+' :: rest => (natural? rest).map fun n => (n : Int)
  | chars => (natural? chars).map fun n => (n : Int)

end AffinityPool.Text
