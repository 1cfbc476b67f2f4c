/-
Module: AffinityPool.Text.EastAsian
Purpose: Character sets in which a character takes one octet or several.
Main exports:
  EastAsian, EastAsian.named, EastAsian.length, EastAsian.char?, EastAsian.settle
-/
import AffinityPool.Text.Grid.Chinese
import AffinityPool.Text.Grid.Japanese
import AffinityPool.Text.Grid.Korean
import AffinityPool.Text.Utf8

namespace AffinityPool.Text

/-!
The first octets of a character tell how many octets it has.  If there is no
character for them, the first octet is replaced and the others are read anew.
Where sets have supplements that were computed from an order, the supplements are
computed here too.
-/

/-- A character set with grids of characters. -/
inductive EastAsian where
  | shiftJis
  | windowsJapanese
  | eucJapanese
  | eucChinese
  | gbk
  | gb18030
  | eucKorean
  | windowsKorean
  | big5
  | windowsBig5
deriving Repr, DecidableEq

namespace EastAsian

/-- The names of the sets and their aliases.  A set that goes beyond another one is
read as far as that one goes. -/
def named : List (String × List String × EastAsian) :=
  [("shift_jis", ["csshiftjis", "s_jis", "shiftjis", "sjis", "x_mac_japanese"], .shiftJis),
   ("shift_jis_2004", ["s_jis_2004", "shiftjis2004", "sjis_2004"], .shiftJis),
   ("shift_jisx0213", ["s_jisx0213", "shiftjisx0213", "sjisx0213"], .shiftJis),
   ("cp932", ["932", "ms932", "ms_kanji", "mskanji"], .windowsJapanese),
   ("euc_jp", ["eucjp", "u_jis", "ujis"], .eucJapanese),
   ("euc_jis_2004", ["euc_jis2004", "eucjis2004", "jisx0213"], .eucJapanese),
   ("euc_jisx0213", ["eucjisx0213"], .eucJapanese),
   ("gb2312", ["chinese", "csiso58gb231280", "euc_cn", "euccn", "eucgb2312_cn", "gb2312_1980",
     "gb2312_80", "iso_ir_58", "x_mac_simp_chinese"], .eucChinese),
   ("gbk", ["936", "cp936", "ms936"], .gbk),
   ("gb18030", ["gb18030_2000"], .gb18030),
   ("euc_kr", ["euckr", "korean", "ks_c_5601", "ks_c_5601_1987", "ks_x_1001", "ksc5601",
     "ksx1001", "x_mac_korean"], .eucKorean),
   ("cp949", ["949", "ms949", "uhc"], .windowsKorean),
   ("big5", ["big5_tw", "csbig5", "x_mac_trad_chinese"], .big5),
   ("big5hkscs", ["big5_hkscs", "hkscs"], .big5),
   ("cp950", ["950", "ms950"], .windowsBig5)]

/-- Whether a number lies in a range. -/
def within (low high n : Nat) : Bool := low ≤ n && n ≤ high

/-- How many octets there are in what begins with some octets, as far as these
tell. -/
def length (set : EastAsian) (octets : List UInt8) : Nat :=
  let first := (octets.headD 0).toNat
  let second := ((octets.drop 1).headD 0).toNat
  if first < 0x80 then 1
  else
    match set with
    | .shiftJis => if within 0x81 0x9F first || within 0xE0 0xFC first then 2 else 1
    | .windowsJapanese =>
        if first = 0x80 || within 0xA0 0xDF first || 0xFD ≤ first then 1 else 2
    | .eucJapanese => if first = 0x8F then 3 else 2
    | .gb18030 => if within 0x30 0x39 second then 4 else 2
    | .eucKorean => if first = 0xA4 && second = 0xD4 then 8 else 2
    | _ => 2

/-- The row and the cell of two octets in which two rows share a first octet. -/
def sharedRow? (first second : Nat) : Option (Nat × Nat) :=
  if !within 0x40 0xFC second || second = 0x7F then none
  else
    let row := 2 * (if first < 0xE0 then first - 0x81 else first - 0xC1)
    let cell := if second < 0x80 then second - 0x40 else second - 0x41
    if cell < 94 then some (row + 0x21, cell + 0x21) else some (row + 0x22, cell - 94 + 0x21)

/-- Signs that a vendor reads in a form of its own. -/
def vendorSigns : List (Nat × Char) :=
  [(0x8160, '～'), (0x8161, '∥'), (0x817C, '－'), (0x8191, '￠'), (0x8192, '￡'), (0x81CA, '￢')]

/-- The character of two octets in the set of a vendor. -/
def windowsJapanese? (first second : Nat) : Option Char := do
  let (row, cell) ← sharedRow? first second
  if within 0xF0 0xF9 first then
    let cell := if second < 0x80 then second - 0x40 else second - 0x41
    return Char.ofNat (0xE000 + 188 * (first - 0xF0) + cell)
  (vendorSigns.lookup (first * 0x100 + second)).or <|
    (Grid.vendorKanji.char? row cell).or (Grid.kanji.char? row cell)

/-- The number of two octets among those behind a first one whose second octets
lie in two ranges. -/
def place? (start : Nat) (ranges : List (Nat × Nat)) (first second : Nat) : Option Nat := do
  let size (ranges : List (Nat × Nat)) :=
    ranges.foldl (fun total range => total + (range.2 + 1 - range.1)) 0
  let before := size (ranges.filter (·.2 < second))
  let range ← ranges.find? fun range => within range.1 range.2 second
  if first < start then none
  else some ((first - start) * size ranges + before + (second - range.1))

/-- The code points of a range without those that a grid has. -/
def without (grid : Grid) (low high : Nat) : List Nat :=
  let taken := ((grid.flatMap fun row => row.cells.toList.map Char.toNat).filter
    (within low high)).mergeSort (· ≤ ·)
  let (found, _) := (List.range' low (high + 1 - low)).foldl (fun (found, taken) n =>
    match taken with
    | first :: rest => if first = n then (found, rest) else (n :: found, taken)
    | [] => (n :: found, [])) (([] : List Nat), taken)
  found.reverse

/-- Ideographs that are not in the grid of simplified characters, in order, and a
few that stand elsewhere. -/
def remainingIdeographs : List Nat :=
  without Grid.simplified 0x4E00 0x9FA5 ++
    [0xF92C, 0xF979, 0xF995, 0xF9E7, 0xF9F1, 0xFA0C, 0xFA0D, 0xFA0E, 0xFA0F, 0xFA11, 0xFA13,
      0xFA14, 0xFA18, 0xFA1F, 0xFA20, 0xFA21, 0xFA23, 0xFA24, 0xFA27, 0xFA28, 0xFA29]

/-- Syllables that are not in the grid of Korean characters, in order. -/
def remainingSyllables : List Nat := without Grid.korean 0xAC00 0xD7A3

/-- The character of two octets in the larger set of simplified characters. -/
def gbk? (first second : Nat) : Option Char :=
  let low := [(0x40, 0x7E), (0x80, 0xFE)]
  let high := [(0x40, 0x7E), (0x80, 0xA0)]
  if first = 0xA1 && second = 0xA4 then some '·'
  else if first = 0xA1 && second = 0xAA then some '—'
  else if within 0x81 0xA0 first then
    (place? 0x81 low first second).bind fun place =>
      remainingIdeographs[place]?.map Char.ofNat
  else if within 0xAA 0xFE first && second ≤ 0xA0 then
    (place? 0xAA high first second).bind fun place =>
      remainingIdeographs[6080 + place]?.map Char.ofNat
  else
    (if 0xA1 ≤ second then Grid.simplified.char? (first - 0x80) (second - 0x80) else none).or
      (Grid.moreSimplified.char? first second)

/-- The character for private use of two octets. -/
def privateUse? (first second : Nat) : Option Char :=
  let point? :=
    if within 0xA1 0xA7 first && second ≤ 0xA0 then
      (place? 0xA1 [(0x40, 0x7E), (0x80, 0xA0)] first second).map (0xE4C6 + ·)
    else if within 0xAA 0xAF first then
      (place? 0xAA [(0xA1, 0xFE)] first second).map (0xE000 + ·)
    else if within 0xF8 0xFE first then
      (place? 0xF8 [(0xA1, 0xFE)] first second).map (0xE234 + ·)
    else none
  point?.map Char.ofNat

/-- The character of four octets. -/
def distant? (a b c d : Nat) : Option Char :=
  if !within 0x81 0xFE a || !within 0x81 0xFE c || !within 0x30 0x39 d then none
  else
    let place := (((a - 0x81) * 10 + (b - 0x30)) * 126 + (c - 0x81)) * 10 + (d - 0x30)
    if place < 39420 then
      (Grid.distantRuns.reverse.find? (·.1 ≤ place)).map fun run =>
        Char.ofNat (run.2 + (place - run.1))
    else if within 189000 1237575 place then some (Char.ofNat (0x10000 + (place - 189000)))
    else none

/-- The consonants of Korean letters: their places at the start and at the end of a
syllable. -/
def consonants : List (Option Nat × Option Nat) :=
  [(some 0, some 1), (some 1, some 2), (none, some 3), (some 2, some 4), (none, some 5),
   (none, some 6), (some 3, some 7), (some 4, none), (some 5, some 8), (none, some 9),
   (none, some 10), (none, some 11), (none, some 12), (none, some 13), (none, some 14),
   (none, some 15), (some 6, some 16), (some 7, some 17), (some 8, none), (none, some 18),
   (some 9, some 19), (some 10, some 20), (some 11, some 21), (some 12, some 22), (some 13, none),
   (some 14, some 23), (some 15, some 24), (some 16, some 25), (some 17, some 26),
   (some 18, some 27)]

/-- The syllable that a filler and three letters make. -/
def spelled? (octets : List Nat) : Option Char :=
  match octets with
  | [_, _, 0xA4, first, 0xA4, vowel, 0xA4, last] => do
      let letter (n : Nat) := if n < 0xA1 then none else consonants[n - 0xA1]?
      let first ← (letter first).bind (·.1)
      let last ← if last = 0xD4 then some 0 else (letter last).bind (·.2)
      if within 0xBF 0xD3 vowel then
        return Char.ofNat (0xAC00 + first * 588 + (vowel - 0xBF) * 28 + last)
      none
  | _ => none

/-- The character of two octets that have the highest bit. -/
def highPair? (grid : Grid) (first second : Nat) : Option Char :=
  if first < 0xA1 || second < 0xA1 then none else grid.char? (first - 0x80) (second - 0x80)

/-- The character of two octets in the larger set of Korean characters. -/
def windowsKorean? (first second : Nat) : Option Char :=
  let low := [(0x41, 0x5A), (0x61, 0x7A), (0x81, 0xFE)]
  let high := [(0x41, 0x5A), (0x61, 0x7A), (0x81, 0xA0)]
  (highPair? Grid.korean first second).or <|
    (if within 0x81 0xA0 first then place? 0x81 low first second
      else if within 0xA1 0xC6 first then (place? 0xA1 high first second).map (5696 + ·)
      else none).bind fun place => remainingSyllables[place]?.map Char.ofNat

/-- The cell of a second octet among traditional characters. -/
def traditionalCell? (second : Nat) : Option Nat :=
  if within 0x40 0x7E second then some second
  else if within 0xA1 0xFE second then some (second - 0x22)
  else none

/-- The character of as many octets as a character that begins with them has. -/
def char? (set : EastAsian) (octets : List UInt8) : Option Char :=
  match octets.map UInt8.toNat with
  | [octet] =>
      if octet < 0x80 then some (Char.ofNat octet)
      else
        match set with
        | .shiftJis =>
            if within 0xA1 0xDF octet then some (Char.ofNat (0xFEC0 + octet)) else none
        | .windowsJapanese =>
            if octet = 0x80 then some '\u0080'
            else if octet = 0xA0 then some '\uF8F0'
            else if octet < 0xE0 then some (Char.ofNat (0xFEC0 + octet))
            else some (Char.ofNat (0xF8F1 + (octet - 0xFD)))
        | _ => none
  | [first, second] =>
      match set with
      | .shiftJis => (sharedRow? first second).bind fun (row, cell) => Grid.kanji.char? row cell
      | .windowsJapanese => windowsJapanese? first second
      | .eucJapanese =>
          if first = 0x8E then
            if within 0xA1 0xDF second then some (Char.ofNat (0xFEC0 + second)) else none
          else highPair? Grid.kanji first second
      | .eucChinese => highPair? Grid.simplified first second
      | .gbk => gbk? first second
      | .gb18030 =>
          ((gbk? first second).or (privateUse? first second)).or
            (Grid.lateSimplified.char? first second)
      | .eucKorean => highPair? Grid.korean first second
      | .windowsKorean => windowsKorean? first second
      | .big5 => (traditionalCell? second).bind (Grid.traditional.char? first)
      | .windowsBig5 =>
          (traditionalCell? second).bind fun cell =>
            (Grid.vendorTraditional.char? first cell).or (Grid.traditional.char? first cell)
  | [_, second, third] => highPair? Grid.moreKanji second third
  | [a, b, c, d] => distant? a b c d
  | octets => spelled? octets

/-- The characters that octets make, and the octets of what is not yet one. -/
def settle (set : EastAsian) : List UInt8 → List Char × List UInt8
  | [] => ([], [])
  | octet :: rest =>
      let size := set.length (octet :: rest)
      if rest.length + 1 < size then ([], octet :: rest)
      else
        match set.char? ((octet :: rest).take size) with
        | some c =>
            let (chars, held) := settle set (rest.drop (size - 1))
            (c :: chars, held)
        | none =>
            let (chars, held) := settle set rest
            (Utf8.replacement :: chars, held)
termination_by octets => octets.length

end EastAsian

end AffinityPool.Text
