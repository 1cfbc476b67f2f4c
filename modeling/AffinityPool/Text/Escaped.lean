/-
Module: AffinityPool.Text.Escaped
Purpose: Octets in which backslashes begin escapes.
Main exports:
  Escaped, Escaped.settle, Escaped.finish
-/
import AffinityPool.Text.Letter
import AffinityPool.Text.Utf8

namespace AffinityPool.Text

/-!
An octet stands for the character of its number, except that a backslash begins an
escape.  An escape that breaks off is replaced up to where it does.
-/

/-- Which escapes there are. -/
inductive Escaped where
  /-- Numbers of four or eight hexadecimal digits. -/
  | numbers
  /-- All numbers, and letters for controls. -/
  | all
deriving Repr, DecidableEq

namespace Escaped

/-- What the octets at the start of a text come to. -/
inductive Outcome where
  /-- More octets are needed. -/
  | waits
  | gives (chars : List Char) (size : Nat)

/-- The value of a hexadecimal digit. -/
def hexValue? (c : Char) : Option Nat :=
  if '0' ≤ c ∧ c ≤ '9' then some (c.toNat - '0'.toNat)
  else if 'a' ≤ c ∧ c ≤ 'f' then some (c.toNat - 'a'.toNat + 10)
  else if 'A' ≤ c ∧ c ≤ 'F' then some (c.toNat - 'A'.toNat + 10)
  else none

/-- The character of a number, or the one that replaces it. -/
def charOf (value : Nat) : Char :=
  if value < 0x110000 ∧ Letter.isHalf value = false then Char.ofNat value else Utf8.replacement

/-- What a number of hexadecimal digits comes to. -/
def readHex (count : Nat) (behind : List Char) : Outcome :=
  let digits := (behind.take count).takeWhile fun c => (hexValue? c).isSome
  if digits.length = count then
    .gives [charOf (digits.foldl (fun n c => n * 16 + (hexValue? c).getD 0) 0)] (2 + count)
  else if digits.length = behind.length then .waits
  else .gives [Utf8.replacement] (2 + digits.length)

/-- What up to three octal digits come to. -/
def readOctal (behind : List Char) : Outcome :=
  let digits := (behind.take 3).takeWhile fun c => '0' ≤ c ∧ c ≤ '7'
  if digits.length < 3 ∧ digits.length = behind.length then .waits
  else
    .gives [Char.ofNat (digits.foldl (fun n c => n * 8 + (c.toNat - '0'.toNat)) 0)]
      (1 + digits.length)

/-- What the name of a character in braces comes to.  Nothing is known by name. -/
def readName (behind : List Char) : Outcome :=
  match behind with
  | [] => .waits
  | '\x7b' :: rest =>
      let name := rest.takeWhile (· ≠ '\x7d')
      if name.length = rest.length then .waits
      else .gives [Utf8.replacement] (3 + name.length + (if name.isEmpty then 0 else 1))
  | _ => .gives [Utf8.replacement] 2

/-- The characters that letters behind a backslash stand for. -/
def controls : List (Char × List Char) :=
  [('\n', []), ('\\', ['\\']), ('\'', ['\'']), ('"', ['"']), ('a', ['\x07']), ('b', ['\x08']),
    ('f', ['\x0c']), ('n', ['\n']), ('r', ['\r']), ('t', ['\t']), ('v', ['\x0b'])]

/-- What the octets at the start of a text come to. -/
def readOne (kind : Escaped) (octets : List Char) : Outcome :=
  match octets with
  | '\\' :: 'u' :: behind => readHex 4 behind
  | '\\' :: 'U' :: behind => readHex 8 behind
  | ['\\'] => .waits
  | '\\' :: c :: behind =>
      match kind with
      | .numbers => .gives ['\\', c] 2
      | .all =>
          if c = 'x' then readHex 2 behind
          else if c = 'N' then readName behind
          else if '0' ≤ c ∧ c ≤ '7' then readOctal (c :: behind)
          else .gives ((controls.lookup c).getD ['\\', c]) 2
  | c :: _ => .gives [c] 1
  | [] => .waits

/-- The characters that octets make, and the octets of what is not yet one. `fuel`
bounds the characters and the escapes, each of which has an octet. -/
def settleWith (kind : Escaped) : (fuel : Nat) → List UInt8 → List Char × List UInt8
  | 0, octets => ([], octets)
  | fuel + 1, octets =>
      match readOne kind (octets.map fun octet => Char.ofNat octet.toNat) with
      | .waits => ([], octets)
      | .gives chars size =>
          let (more, held) := settleWith kind fuel (octets.drop size)
          (chars ++ more, held)

/-- The characters that octets make, and the octets of what is not yet one. -/
def settle (kind : Escaped) (octets : List UInt8) : List Char × List UInt8 :=
  settleWith kind octets.length octets

/-- What held octets are worth when no more come. -/
def finish (kind : Escaped) (held : List UInt8) : List Char :=
  match held.map fun octet => Char.ofNat octet.toNat with
  | [] => []
  | ['\\'] => match kind with
    | .numbers => ['\\']
    | .all => [Utf8.replacement]
  | '\\' :: c :: rest =>
      if '0' ≤ c ∧ c ≤ '7' then
        [Char.ofNat ((c :: rest).foldl (fun n c => n * 8 + (c.toNat - '0'.toNat)) 0)]
      else [Utf8.replacement]
  | _ => [Utf8.replacement]

end Escaped

end AffinityPool.Text
