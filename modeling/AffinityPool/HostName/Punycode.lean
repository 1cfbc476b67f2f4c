/-
Module: AffinityPool.HostName.Punycode
Purpose: Labels beyond ASCII as codes of letters, digits and hyphens.
Main exports:
  Punycode.encode, Punycode.decode?
-/

namespace AffinityPool.HostName.Punycode

/-!
The code of a label is its ASCII characters, a hyphen if there are any, and then
numbers that say in ascending order of code points where the other characters go.
A number is written with the lowest digit first; each digit has a threshold, and
a digit below its threshold is the last one.  The thresholds follow a bias that
is adapted after every number.
-/

/-- How many digits there are. -/
def base : Nat := 36

/-- The threshold of the digit at a place. -/
def threshold (bias place : Nat) : Nat := max 1 (min 26 (base * (place + 1) - bias))

theorem one_le_threshold (bias place : Nat) : 1 ≤ threshold bias place := by
  simp only [threshold]
  omega

/-- The number of steps in which a difference comes down to the range of the last
digits, and what it comes down to. -/
def scaledDown (steps delta : Nat) : Nat × Nat :=
  if 455 < delta then scaledDown (steps + 1) (delta / 35) else (steps, delta)
termination_by delta
decreasing_by omega

/-- The bias after a number. -/
def adapted (delta count : Nat) (isFirst : Bool) : Nat :=
  let delta := if isFirst then delta / 700 else delta / 2
  let (steps, delta) := scaledDown 0 (delta + delta / count)
  base * steps + base * delta / (delta + 38)

/-- The character of a digit. -/
def digitChar (digit : Nat) : Char :=
  if digit < 26 then Char.ofNat ('a'.toNat + digit) else Char.ofNat ('0'.toNat + (digit - 26))

/-- The digit of a character. -/
def digitValue? (c : Char) : Option Nat :=
  if 'a' ≤ c ∧ c ≤ 'z' then some (c.toNat - 'a'.toNat)
  else if '0' ≤ c ∧ c ≤ '9' then some (c.toNat - '0'.toNat + 26)
  else none

/-- A number written with the thresholds of a bias, from a place on. -/
def written (bias place n : Nat) : List Char :=
  let t := threshold bias place
  if n < t then [digitChar n]
  else digitChar (t + (n - t) % (base - t)) :: written bias (place + 1) ((n - t) / (base - t))
termination_by n
decreasing_by
  have low := one_le_threshold bias place
  have high := Nat.div_le_self (n - threshold bias place) (base - threshold bias place)
  omega

/-- What the encoder remembers: how many characters are written, the distance
from the last one, the bias, and the code. -/
structure Encoder where
  count : Nat
  delta : Nat
  bias : Nat
  isFirst : Bool
  code : List Char

/-- Pass over a character of a label while those of one code point are
written. -/
def Encoder.pass (point : Nat) (encoder : Encoder) (c : Char) : Encoder :=
  if c.toNat < point then { encoder with delta := encoder.delta + 1 }
  else if c.toNat = point then
    { count := encoder.count + 1
      delta := 0
      bias := adapted encoder.delta (encoder.count + 1) encoder.isFirst
      isFirst := false
      code := encoder.code ++ written encoder.bias 0 encoder.delta }
  else encoder

/-- Write the characters of each of several code points, which ascend from a
point on. -/
def Encoder.run (label : List Char) (encoder : Encoder) : (next : Nat) → List Nat → Encoder
  | _, [] => encoder
  | next, point :: points =>
      let begun :=
        { encoder with delta := encoder.delta + (point - next) * (encoder.count + 1) }
      let passed := label.foldl (Encoder.pass point) begun
      Encoder.run label { passed with delta := passed.delta + 1 } (point + 1) points

/-- The code of a label. -/
def encode (label : List Char) : List Char :=
  let plain := label.filter fun c => c.toNat < 0x80
  let points := (((label.map Char.toNat).filter (0x80 ≤ ·)).mergeSort (· ≤ ·)).eraseReps
  let head := if plain.isEmpty then [] else plain ++ ['-']
  (Encoder.run label ⟨plain.length, 0, 72, true, head⟩ 0x80 points).code

/-- Read a number: its value and what stands behind it. -/
def read? (bias : Nat) : (place weight value : Nat) → List Char → Option (Nat × List Char)
  | _, _, _, [] => none
  | place, weight, value, c :: rest => do
      let digit ← digitValue? c
      let value := value + digit * weight
      let t := threshold bias place
      if digit < t then some (value, rest)
      else read? bias (place + 1) (weight * (base - t)) value rest

/-- A code point as a character. -/
def char? (point : Nat) : Option Char :=
  if point < 0xD800 ∨ (0xE000 ≤ point ∧ point < 0x110000) then some (Char.ofNat point) else none

/-- Insert the characters that the rest of a code tells.  `place` is where the
next one can go at the earliest; `fuel` bounds the numbers, of which each has a
digit. -/
def inserted? : (fuel : Nat) → (point place bias : Nat) → (isFirst : Bool) →
    (label code : List Char) → Option (List Char)
  | _, _, _, _, _, label, [] => some label
  | 0, _, _, _, _, _, _ => none
  | fuel + 1, point, place, bias, isFirst, label, code => do
      let (delta, rest) ← read? bias 0 1 0 code
      let size := label.length + 1
      let point := point + (place + delta) / size
      let place := (place + delta) % size
      let c ← char? point
      inserted? fuel point (place + 1) (adapted delta size isFirst) false
        (label.take place ++ c :: label.drop place) rest

/-- The label of a code.  The last hyphen, if there is one, ends the ASCII
characters. -/
def decode? (code : List Char) : Option (List Char) :=
  let digits := (code.reverse.takeWhile (· ≠ '-')).reverse
  let plain := code.take (code.length - digits.length - 1)
  inserted? (digits.length + 1) 0x80 0 72 true plain digits

end AffinityPool.HostName.Punycode
