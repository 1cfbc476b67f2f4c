/-
Module: AffinityPool.Text.Utf7
Purpose: UTF-7 octets as characters, octet by octet.
Main exports:
  Utf7.State, Utf7.step, Utf7.flush
-/
import AffinityPool.Text.Letter
import AffinityPool.Text.Utf8

namespace AffinityPool.Text.Utf7

/-!
ASCII stands for itself, except that a plus sign begins a run of units of 16 bits,
written in digits of six bits each.  A run ends in front of the first octet that
is no digit; a hyphen there belongs to the run.  What a run holds is given when it
ends.
-/

/-- Where the machine stands. -/
inductive State where
  | direct
  /-- Behind the plus sign that begins a run. -/
  | marked
  /-- Inside a run: its characters, the first half of a pair, and the number and
  the value of the bits that are no unit yet. -/
  | coded (chars : List Char) (high : Option Nat) (count : Nat) (bits : Nat)
deriving Repr, DecidableEq

/-- The value of a digit of six bits. -/
def digit? (octet : Nat) : Option Nat :=
  let c := Char.ofNat octet
  if 'A' ≤ c ∧ c ≤ 'Z' then some (octet - 'A'.toNat)
  else if 'a' ≤ c ∧ c ≤ 'z' then some (octet - 'a'.toNat + 26)
  else if '0' ≤ c ∧ c ≤ '9' then some (octet - '0'.toNat + 52)
  else if c = '+' then some 62
  else if c = '/' then some 63
  else none

/-- Read an octet outside of runs. -/
def readDirect (octet : Nat) : List Char × State :=
  if octet = '+'.toNat then ([], .marked)
  else if octet < 0x80 then ([Char.ofNat octet], .direct)
  else ([Utf8.replacement], .direct)

/-- The characters that a unit completes behind the first half of a pair, and the
first half that waits then.  Halves alone are replaced. -/
def addUnit (high : Option Nat) (unit : Nat) : List Char × Option Nat :=
  let alone : List Char × Option Nat :=
    if 0xD800 ≤ unit ∧ unit < 0xDC00 then ([], some unit)
    else if Letter.isHalf unit then ([Utf8.replacement], none)
    else ([Char.ofNat unit], none)
  match high with
  | none => alone
  | some high =>
      if Letter.arePair high unit then ([Letter.pairChar high unit], none)
      else (Utf8.replacement :: alone.1, alone.2)

/-- Read a digit of a run. -/
def addDigit (chars : List Char) (high : Option Nat) (count bits digit : Nat) : State :=
  let bits := bits * 64 + digit
  let count := count + 6
  if count < 16 then .coded chars high count bits
  else
    let rest := Nat.pow 2 (count - 16)
    let (more, high) := addUnit high (bits / rest)
    .coded (chars ++ more) high (count - 16) (bits % rest)

/-- Read the octet that ends a run.  An octet behind a broken unit is swallowed. -/
def leave (chars : List Char) (high : Option Nat) (count bits octet : Nat) : List Char × State :=
  if 6 ≤ count ∨ bits ≠ 0 then (chars ++ [Utf8.replacement], .direct)
  else
    let chars := if high.isSome ∧ octet < 0x80 then chars ++ [Utf8.replacement] else chars
    if octet = '-'.toNat then (chars, .direct)
    else
      let (more, state) := readDirect octet
      (chars ++ more, state)

/-- Read one octet. -/
def step (state : State) (octet : UInt8) : List Char × State :=
  let octet := octet.toNat
  match state with
  | .direct => readDirect octet
  | .marked =>
      match digit? octet with
      | some digit => ([], addDigit [] none 0 0 digit)
      | none => ([if octet = '-'.toNat then '+' else Utf8.replacement], .direct)
  | .coded chars high count bits =>
      match digit? octet with
      | some digit => ([], addDigit chars high count bits digit)
      | none => leave chars high count bits octet

/-- What is left when no further octet comes. -/
def flush : State → List Char
  | .direct | .marked => []
  | .coded chars high count bits =>
      if high.isSome ∨ 6 ≤ count ∨ bits ≠ 0 then chars ++ [Utf8.replacement] else chars

end AffinityPool.Text.Utf7
