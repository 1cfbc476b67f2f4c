/-
Module: AffinityPool.Decimal.Shortest
Purpose: The shortest decimal that reads back as a given double, and its text.
Main exports:
  Binary64.shortest, Binary64.text
-/
import AffinityPool.Decimal.Binary64

namespace AffinityPool.Binary64

/-!
Every double is the centre of an interval of real numbers that round to it.
The shortest decimal is a number of that interval with the fewest significant
digits, and among those the one nearest to the double.  On each decimal grid
only the two neighbours of the double need to be tried: if any grid point lies
in the interval, so does one of them.
-/

/-- The rounding interval of a positive double, scaled by four: the value and
its two ends are multiples of `2 ^ exponent`. -/
structure RoundingInterval where
  value : Nat
  low : Nat
  high : Nat
  exponent : Int
  /-- Whether the ends themselves round to the value. -/
  closed : Bool
deriving Repr

/-- The interval of the double `mantissa * 2 ^ exponent`.  Below a power of two
the neighbour is half as far away. -/
def roundingInterval (mantissa : Nat) (exponent : Int) : RoundingInterval :=
  let isPower := mantissa = Nat.pow 2 52 && leastExponent < exponent
  { value := 4 * mantissa
    low := 4 * mantissa - (if isPower then 1 else 2)
    high := 4 * mantissa + 2
    exponent := exponent - 2
    closed := mantissa % 2 = 0 }

/-- Compare `a * 2 ^ e` with `d * 10 ^ p` by cross-multiplication. -/
def compareScaled (a : Nat) (e : Int) (d : Nat) (p : Int) : Ordering :=
  let left := a * Nat.pow 2 e.toNat * Nat.pow 10 (-p).toNat
  let right := d * Nat.pow 10 p.toNat * Nat.pow 2 (-e).toNat
  compare left right

/-- Whether the decimal `d * 10 ^ p` rounds to the value of the interval. -/
def RoundingInterval.holds (i : RoundingInterval) (d : Nat) (p : Int) : Bool :=
  match compareScaled i.low i.exponent d p, compareScaled i.high i.exponent d p with
  | .lt, .gt => true
  | .eq, _ => i.closed
  | _, .eq => i.closed
  | _, _ => false

/-- The floor of `a * 2 ^ e / 10 ^ p`. -/
def floorOnGrid (a : Nat) (e p : Int) : Nat :=
  (a * Nat.pow 2 e.toNat * Nat.pow 10 (-p).toNat) / (Nat.pow 10 p.toNat * Nat.pow 2 (-e).toNat)

/-- The number of digits before the decimal point of `a * 2 ^ e`; zero or
negative for numbers below one. -/
def pointPosition (a : Nat) (e : Int) : Int :=
  match e with
  | .ofNat k => (Nat.toDigits 10 (a * Nat.pow 2 k)).length
  | .negSucc k =>
      let den := Nat.pow 2 (k + 1)
      if den ≤ a then (Nat.toDigits 10 (a / den)).length
      else
        -- The least `n` with `den ≤ a * 10 ^ n` counts the places skipped.
        let skipped := (Nat.toDigits 10 (den / a)).length
        let n := if den ≤ a * Nat.pow 10 (skipped - 1) then skipped - 1 else skipped
        1 - (n : Int)

/-- The grid point nearest to the value, if one of its two neighbours on the
grid of step `10 ^ p` rounds to it. -/
def nearestOnGrid? (i : RoundingInterval) (p : Int) : Option Nat :=
  let below := floorOnGrid i.value i.exponent p
  let above := below + 1
  match i.holds below p && below != 0, i.holds above p with
  | true, false => some below
  | false, true => some above
  | false, false => none
  | true, true =>
      match compareScaled (2 * i.value) i.exponent (below + above) p with
      | .lt => some below
      | .gt => some above
      | .eq => some (if below % 2 = 0 then below else above)

/-- The first grid with a hit, for `used + 1`, `used + 2`, … significant
digits. -/
def firstGrid (i : RoundingInterval) (point : Int) : (fuel used : Nat) → Nat × Int
  | 0, used => (floorOnGrid i.value i.exponent (point - used), point - used)
  | fuel + 1, used =>
      let p := point - (used + 1)
      match nearestOnGrid? i p with
      | some d => (d, p)
      | none => firstGrid i point fuel (used + 1)

/-- The shortest decimal `d * 10 ^ p` that reads back as a positive double.
Seventeen digits always suffice. -/
def shortest (mantissa : Nat) (exponent : Int) : Nat × Int :=
  let i := roundingInterval mantissa exponent
  firstGrid i (pointPosition i.value i.exponent) 17 0

/-- The text of a positive decimal `d * 10 ^ p`: positional from `1e-4` up to
below `1e16`, with a trailing `.0` for whole numbers, and otherwise with one
digit before the point and an exponent of at least two digits. -/
def layout (d : Nat) (p : Int) : String :=
  let digits := Nat.toDigits 10 d
  let trailing := (digits.reverse.takeWhile (· = '0')).length
  let significant := digits.take (max 1 (digits.length - trailing))
  let point : Int := digits.length + p
  let count : Int := significant.length
  let shown : List Char :=
    if point ≤ -4 || 16 < point then
      let exponent := point - 1
      let fraction := match significant.drop 1 with
        | [] => []
        | rest => '.' :: rest
      let places := Nat.toDigits 10 exponent.natAbs
      significant.take 1 ++ fraction ++ ['e', if exponent < 0 then '-' else '+'] ++
        List.replicate (2 - places.length) '0' ++ places
    else if point ≤ 0 then
      ['0', '.'] ++ List.replicate (-point).toNat '0' ++ significant
    else if count ≤ point then
      significant ++ List.replicate (point - count).toNat '0' ++ ['.', '0']
    else significant.take point.toNat ++ ['.'] ++ significant.drop point.toNat
  String.ofList shown

/-- The text of a double inside messages. -/
def text : Binary64 → String
  | .nan => "nan"
  | .infinite negative => if negative then "-inf" else "inf"
  | .finite negative mantissa exponent =>
      let magnitude :=
        if mantissa = 0 then "0.0"
        else
          let (d, p) := shortest mantissa exponent
          layout d p
      if negative then "-" ++ magnitude else magnitude

end AffinityPool.Binary64
