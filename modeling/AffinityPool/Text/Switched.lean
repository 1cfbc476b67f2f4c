/-
Module: AffinityPool.Text.Switched
Purpose: Character sets of seven bits in which escapes switch between grids.
Main exports:
  Switched, Switched.named, Switched.settle
-/
import AffinityPool.Text.EastAsian

namespace AffinityPool.Text

/-!
An escape says which plane of characters the octets behind it stand for.  In most
sets it begins with the escape character and ends with a capital letter; in one it
is a tilde and a mark.  What an escape says holds until another one comes.
-/

/-- What octets stand for. -/
inductive Plane where
  | ascii
  | roman
  | kana
  | kanji
  | moreKanji
  | korean
  | simplified
deriving Repr, DecidableEq

namespace Plane

/-- How many octets a character of a plane has. -/
def width : Plane → Nat
  | .ascii | .roman | .kana => 1
  | _ => 2

/-- The character of one octet or of two. -/
def char? (plane : Plane) (octets : List Nat) : Option Char :=
  match plane, octets with
  | .ascii, [n] => some (Char.ofNat n)
  | .roman, [n] => some (if n = 0x5C then '¥' else if n = 0x7E then '‾' else Char.ofNat n)
  | .kana, [n] => if 0x21 ≤ n ∧ n ≤ 0x5F then some (Char.ofNat (0xFF40 + n)) else none
  | .kanji, [row, cell] => Grid.kanji.char? row cell
  | .moreKanji, [row, cell] => Grid.moreKanji.char? row cell
  | .korean, [row, cell] => Grid.korean.char? row cell
  | .simplified, [row, cell] => Grid.simplified.char? row cell
  | _, _ => none

end Plane

/-- The sets, by the escapes that they know. -/
inductive Switched.Kind where
  | japanese
  | japaneseMore
  | japaneseKana
  | japaneseNeighbours
  | korean
  | tildes
deriving Repr, DecidableEq

/-- A set with what its escapes have said. -/
structure Switched where
  kind : Switched.Kind
  plane : Plane
  /-- The plane of octets between the two shifts. -/
  shiftedPlane : Plane
  isShifted : Bool
  /-- An unknown escape passes as it is. -/
  isPassing : Bool
deriving Repr, DecidableEq

namespace Switched

/-- A set at the start of a text. -/
def fresh (kind : Kind) : Switched := ⟨kind, .ascii, .ascii, false, false⟩

/-- The names of the sets and their aliases.  A set that goes beyond another one is
read as far as that one goes. -/
def named : List (String × List String × Switched) :=
  [("iso2022_jp", ["csiso2022jp", "iso2022jp", "iso_2022_jp"], fresh .japanese),
   ("iso2022_jp_1", ["iso2022jp_1", "iso_2022_jp_1"], fresh .japaneseMore),
   ("iso2022_jp_2", ["iso2022jp_2", "iso_2022_jp_2"], fresh .japaneseNeighbours),
   ("iso2022_jp_3", ["iso2022jp_3", "iso_2022_jp_3"], fresh .japanese),
   ("iso2022_jp_2004", ["iso2022jp_2004", "iso_2022_jp_2004"], fresh .japanese),
   ("iso2022_jp_ext", ["iso2022jp_ext", "iso_2022_jp_ext"], fresh .japaneseKana),
   ("iso2022_kr", ["csiso2022kr", "iso2022kr", "iso_2022_kr"], fresh .korean),
   ("hz", ["hz_gb", "hz_gb_2312", "hzgb"], fresh .tildes)]

/-- The plane that a letter behind an escape names. -/
def planeOf? (kind : Kind) (isDouble : Bool) (letter : Char) : Option Plane :=
  let isJapanese := kind ≠ .korean
  match isDouble, letter with
  | false, 'B' => some .ascii
  | false, 'J' => if isJapanese then some .roman else none
  | false, 'I' => if kind = .japaneseKana then some .kana else none
  | true, 'B' | true, '@' => if isJapanese then some .kanji else none
  | true, 'D' => if isJapanese ∧ kind ≠ .japanese then some .moreKanji else none
  | true, 'C' => if kind = .japaneseNeighbours ∨ kind = .korean then some .korean else none
  | true, 'A' => if kind = .japaneseNeighbours then some .simplified else none
  | _, _ => none

/-- What the octets at the start of a text come to. -/
inductive Outcome where
  /-- More octets are needed. -/
  | waits
  | gives (chars : List Char) (size : Nat) (next : Switched)

/-- The length of an escape with its letter: nothing if it goes on behind the octets,
and zero if it is too long. -/
def escapeLength? (isJapanese : Bool) : (position : Nat) → List Char → Option Nat
  | position, [] => if 16 ≤ position then some 0 else none
  | position, c :: rest =>
      if 16 ≤ position then some 0
      else if ('A' ≤ c ∧ c ≤ 'Z') ∨ c = '@' then some (position + 1)
      else if c = '&' ∧ isJapanese ∧ rest.head? = some '@' then
        escapeLength? isJapanese (position + 3) (rest.drop 2)
      else escapeLength? isJapanese (position + 1) rest
termination_by _ chars => chars.length
decreasing_by
  · simp only [List.length_drop, List.length_cons]
    omega
  · simp

/-- What an escape says: the plane, and whether it is the one between the shifts. -/
def said? (kind : Kind) (escape : List Char) : Option (Plane × Bool) :=
  match escape with
  | [_, '$', letter] => (planeOf? kind true letter).map (·, false)
  | [_, '(', letter] => (planeOf? kind false letter).map (·, false)
  | [_, ')', letter] => (planeOf? kind false letter).map (·, true)
  | [_, '$', '(', letter] => (planeOf? kind true letter).map (·, false)
  | [_, '$', ')', letter] => (planeOf? kind true letter).map (·, true)
  | [_, '&', '@', '\x1b', '$', 'B'] => if kind = .korean then none else some (.kanji, false)
  | _ => none

/-- What an escape at the start of octets comes to. -/
def readEscape (set : Switched) (octets : List Char) : Outcome :=
  match octets with
  | _ :: mark :: _ =>
      if ['(', ')', '$', '.', '&'].contains mark then
        match escapeLength? (set.kind ≠ .korean) 1 (octets.drop 1) with
        | none => .waits
        | some 0 => .gives [Utf8.replacement] 1 set
        | some size =>
            match said? set.kind (octets.take size) with
            | some (plane, true) => .gives [] size { set with shiftedPlane := plane }
            | some (plane, false) => .gives [] size { set with plane := plane }
            | none => .gives [Utf8.replacement] size set
      else .gives ['\x1b'] 1 { set with isPassing := true }
  | _ => .waits

/-- What octets of a plane come to. -/
def readPlane (set : Switched) (plane : Plane) (faultSize : Nat) (octets : List UInt8) :
    Outcome :=
  if octets.length < plane.width then .waits
  else
    match plane.char? ((octets.take plane.width).map UInt8.toNat) with
    | some c => .gives [c] plane.width set
    | none => .gives [Utf8.replacement] faultSize set

/-- What octets come to in a set with escape characters. -/
def readOne (set : Switched) (octet : UInt8) (octets : List UInt8) : Outcome :=
  let c := Char.ofNat octet.toNat
  let canShift := set.kind = .korean
  if set.isPassing then
    .gives [c] 1 { set with isPassing := !(('A' ≤ c ∧ c ≤ 'Z') ∨ c = '@') }
  else if c = '\x1b' then readEscape set (octets.map fun octet => Char.ofNat octet.toNat)
  else if c = '\x0f' ∧ canShift then .gives [] 1 { set with isShifted := false }
  else if c = '\x0e' ∧ canShift then .gives [] 1 { set with isShifted := true }
  else if c = '\n' then .gives [c] 1 { set with isShifted := false }
  else if octet < 0x20 then .gives [c] 1 set
  else if 0x80 ≤ octet then .gives [Utf8.replacement] 1 set
  else
    let plane := if set.isShifted then set.shiftedPlane else set.plane
    readPlane set plane plane.width octets

/-- What octets come to in the set with tildes. -/
def readTilde (set : Switched) (octet : UInt8) (octets : List UInt8) : Outcome :=
  let isPlain := set.plane = .ascii
  if octet = '~'.toNat.toUInt8 then
    match octets with
    | [_] => .waits
    | _ :: mark :: _ =>
        let mark := Char.ofNat mark.toNat
        if mark = '~' ∧ isPlain then .gives ['~'] 2 set
        else if mark = '\x7b' ∧ isPlain then .gives [] 2 { set with plane := .simplified }
        else if mark = '\n' ∧ isPlain then .gives [] 2 set
        else if mark = '\x7d' ∧ ¬isPlain then .gives [] 2 { set with plane := .ascii }
        else .gives [Utf8.replacement] 1 set
    | [] => .waits
  else if 0x80 ≤ octet then .gives [Utf8.replacement] 1 set
  else readPlane set set.plane 1 octets

/-- The characters that octets make, the set behind them, and the octets of what is
not yet a character.  `fuel` bounds the characters and the escapes, each of which has
an octet. -/
def settleWith : (fuel : Nat) → Switched → List UInt8 → List Char × Switched × List UInt8
  | 0, set, octets => ([], set, octets)
  | _, set, [] => ([], set, [])
  | fuel + 1, set, octet :: rest =>
      let read := if set.kind = .tildes then readTilde else readOne
      match read set octet (octet :: rest) with
      | .waits => ([], set, octet :: rest)
      | .gives chars size next =>
          let (more, last, held) := settleWith fuel next ((octet :: rest).drop size)
          (chars ++ more, last, held)

/-- The characters that octets make, the set behind them, and the octets of what is
not yet a character. -/
def settle (set : Switched) (octets : List UInt8) : List Char × Switched × List UInt8 :=
  settleWith octets.length set octets

end Switched

end AffinityPool.Text
