/-
Module: AffinityPool.Decimal.Binary64
Purpose: Double-precision numbers as exact values, and correctly rounded reading.
Main exports:
  Binary64, Binary64.ofRatio, Binary64.ofDecimal, Binary64.toInt?
-/

namespace AffinityPool

/-!
A finite double is `mantissa * 2 ^ exponent` with a sign.  Keeping the number
in this form, instead of as a machine word, makes equality decidable and lets
reading and printing be exact arithmetic on natural numbers.
-/

/-- A double-precision number.  Readers build finite numbers in the standard
form: the mantissa is below `2 ^ 53`, the exponent is at least `-1074`, and the
mantissa reaches `2 ^ 52` unless the exponent is the least one. -/
inductive Binary64 where
  | finite (negative : Bool) (mantissa : Nat) (exponent : Int)
  | infinite (negative : Bool)
  | nan
deriving Repr, DecidableEq, Inhabited

namespace Binary64

/-- The exponent of the smallest numbers. -/
def leastExponent : Int := -1074

/-- The exponent of the largest numbers. -/
def greatestExponent : Int := 971

/-- Zero of either sign. -/
def zero (negative : Bool) : Binary64 := .finite negative 0 leastExponent

/-- A ratio scaled by a power of two, as numerator and denominator. -/
def scaled (num den : Nat) (exponent : Int) : Nat × Nat :=
  match exponent with
  | .ofNat e => (num, den * Nat.pow 2 e)
  | .negSucc e => (num * Nat.pow 2 (e + 1), den)

/-- Round a ratio to the nearest natural number, a half to the even one. -/
def roundHalfEven (num den : Nat) : Nat :=
  let quotient := num / den
  let rest := 2 * (num % den)
  if rest < den then quotient
  else if den < rest then quotient + 1
  else if quotient % 2 = 0 then quotient else quotient + 1

/-- The double nearest to a ratio of positive numbers, an exact half going to
the even mantissa.  A ratio beyond the largest double is infinite. -/
def ofRatio (negative : Bool) (num den : Nat) : Binary64 :=
  let estimate : Int := (Nat.log2 num : Int) - Nat.log2 den - 53
  let start := max estimate leastExponent
  let (num₀, den₀) := scaled num den start
  let exponent := if Nat.pow 2 53 ≤ num₀ / den₀ then start + 1 else start
  let (num₁, den₁) := scaled num den exponent
  let mantissa := roundHalfEven num₁ den₁
  let (mantissa, exponent) :=
    if mantissa = Nat.pow 2 53 then (Nat.pow 2 52, exponent + 1) else (mantissa, exponent)
  if greatestExponent < exponent then .infinite negative
  else .finite negative mantissa exponent

/-- The double nearest to `digits * 10 ^ power`.  Powers far outside the range
of doubles are answered without computing the power. -/
def ofDecimal (negative : Bool) (digits : Nat) (power : Int) : Binary64 :=
  let magnitude : Int := (Nat.toDigits 10 digits).length + power
  if digits = 0 then zero negative
  else if 310 < magnitude then .infinite negative
  else if magnitude < -330 then zero negative
  else match power with
    | .ofNat p => ofRatio negative (digits * Nat.pow 10 p) 1
    | .negSucc p => ofRatio negative digits (Nat.pow 10 (p + 1))

/-- The magnitude of a finite number as a ratio, and nothing for the rest. -/
def ratio? : Binary64 → Option (Bool × Nat × Nat)
  | .finite negative mantissa exponent =>
      let (num, den) := match exponent with
        | .ofNat e => (mantissa * Nat.pow 2 e, 1)
        | .negSucc e => (mantissa, Nat.pow 2 (e + 1))
      some (negative, num, den)
  | _ => none

/-- Whether a number is neither infinite nor undefined. -/
def isFinite : Binary64 → Bool
  | .finite .. => true
  | _ => false

/-- The integer a number equals, if it has no fractional part. -/
def toInt? (x : Binary64) : Option Int := do
  let (negative, num, den) ← x.ratio?
  if num % den = 0 then
    some (if negative then -((num / den : Nat) : Int) else ((num / den : Nat) : Int))
  else none

/-- The exact value of a finite number. -/
def toRat? (x : Binary64) : Option Rat := do
  let (negative, num, den) ← x.ratio?
  let magnitude : Rat := mkRat num den
  some (if negative then -magnitude else magnitude)

end Binary64

end AffinityPool
