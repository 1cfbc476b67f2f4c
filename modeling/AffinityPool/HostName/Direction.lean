/-
Module: AffinityPool.HostName.Direction
Purpose: Labels with letters that are written from right to left.
Main exports:
  Direction, directionOf, DirectionFault, DirectionFault.message, directionFault?
-/
import AffinityPool.HostName.Mark
import AffinityPool.Text.Quoted

namespace AffinityPool.HostName

/-- The direction in which a character is written. -/
inductive Direction where
  | leftToRight
  | rightToLeft
  | arabicNumber
  | europeanNumber
  | nonspacing
  | neutral
deriving Repr, DecidableEq

/-- Runs of letters that are written from right to left. -/
def rightToLeftRuns : List (Nat × Nat) :=
  [(1488, 1514), (1519, 1524), (1568, 1599), (1601, 1610), (1646, 1647), (1649, 1652),
   (1657, 1747), (1749, 1749), (1765, 1766), (1774, 1775), (1786, 1791), (1808, 1808),
   (1810, 1839), (1869, 1957), (1969, 1969), (1984, 2026), (2036, 2037), (2048, 2069),
   (2074, 2074), (2084, 2084), (2088, 2088), (2112, 2136), (2144, 2154), (2160, 2183),
   (2185, 2190), (2208, 2249), (65139, 65139), (67584, 67589), (67592, 67592), (67594, 67637),
   (67639, 67640), (67644, 67644), (67647, 67669), (67680, 67702), (67712, 67742), (67808, 67826),
   (67828, 67829), (67840, 67861), (67872, 67897), (67968, 68023), (68030, 68031), (68096, 68096),
   (68112, 68115), (68117, 68119), (68121, 68149), (68192, 68220), (68224, 68252), (68288, 68295),
   (68297, 68324), (68352, 68405), (68416, 68437), (68448, 68466), (68480, 68497), (68608, 68680),
   (68800, 68850), (68864, 68899), (69248, 69289), (69296, 69297), (69376, 69404), (69415, 69415),
   (69424, 69445), (69488, 69505), (69552, 69572), (69600, 69622), (124928, 125124),
   (125218, 125251), (125259, 125259), (125264, 125273)]

/-- Runs of digits that count as Arabic. -/
def arabicNumberRuns : List (Nat × Nat) :=
  [(1632, 1641), (68912, 68921)]

/-- Runs of digits that count as European. -/
def europeanNumberRuns : List (Nat × Nat) :=
  [(48, 57), (1776, 1785)]

/-- Runs of characters without a direction. -/
def neutralRuns : List (Nat × Nat) :=
  [(45, 45), (183, 183), (697, 698), (710, 719), (748, 748), (885, 885), (8204, 8205),
   (11823, 11823), (12539, 12539), (42623, 42623), (42775, 42783), (42888, 42888)]

/-- Marks that take no room and yet have a direction. -/
def directedMarks : List Nat := [0xCBF, 0xCC6, 0x11A07, 0x11A08, 0x11C3F]

/-- The direction of a character. -/
def directionOf (c : Char) : Direction :=
  if Text.inRuns rightToLeftRuns c then .rightToLeft
  else if Text.inRuns arabicNumberRuns c then .arabicNumber
  else if Text.inRuns europeanNumberRuns c then .europeanNumber
  else if Text.inRuns neutralRuns c then .neutral
  else if isNonspacing c && !directedMarks.contains c.toNat then .nonspacing
  else .leftToRight

/-- How a label fails to keep to one direction. -/
inductive DirectionFault where
  /-- The label starts with something that has no direction. -/
  | start
  /-- A letter stands in a label of the other direction. -/
  | stray (position : Nat) (isFromRight : Bool)
  | mixedNumbers
  | ending
deriving Repr, DecidableEq

/-- The text of a fault in a label. -/
def DirectionFault.message (label : List Char) : DirectionFault → String
  | .start =>
      let shown := Text.quoted (String.ofList label)
      s!"First codepoint in label {shown} must be directionality L, R or AL"
  | .stray position isFromRight =>
      let order := if isFromRight then "right-to-left" else "left-to-right"
      s!"Invalid direction for codepoint at position {position} in a {order} label"
  | .mixedNumbers => "Can not mix numeral types in a right-to-left label"
  | .ending => "Label ends with illegal codepoint directionality"

/-- Whether a direction is that of numbers. -/
def Direction.isNumber (d : Direction) : Bool := d = .arabicNumber || d = .europeanNumber

/-- The first fault of a label from right to left, from a position on.  `number`
is the kind of its numbers so far. -/
def strayFromRight? (number : Option Direction) :
    (position : Nat) → List Direction → Option DirectionFault
  | _, [] => none
  | position, d :: rest =>
      if d = .leftToRight then some (.stray position true)
      else if d.isNumber then
        if number.any (· ≠ d) then some .mixedNumbers
        else strayFromRight? (some d) (position + 1) rest
      else strayFromRight? number (position + 1) rest

/-- The first fault of a label from left to right, from a position on. -/
def strayFromLeft? : (position : Nat) → List Direction → Option DirectionFault
  | _, [] => none
  | position, d :: rest =>
      if d = .rightToLeft || d = .arabicNumber then some (.stray position false)
      else strayFromLeft? (position + 1) rest

/-- How a label fails to keep to one direction, if it does.  A label without
letters and digits of the right-to-left kind keeps to it.  Any other one starts
with a letter of its direction, holds none of the other one, does not mix the two
kinds of digits, and ends, marks apart, with a letter or a digit. -/
def directionFault? (label : List Char) : Option DirectionFault :=
  let directions := label.map directionOf
  if directions.all fun d => d ≠ .rightToLeft && d ≠ .arabicNumber then none
  else
    let stray := match directions.head? with
      | some .rightToLeft => strayFromRight? none 1 directions
      | some .leftToRight => strayFromLeft? 1 directions
      | _ => some .start
    let ending := directions.reverse.dropWhile (· = .nonspacing)
    stray.or (if ending.head? = some .neutral then some .ending else none)

end AffinityPool.HostName
