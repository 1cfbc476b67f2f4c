/-
Module: AffinityPool.HostName.Label
Purpose: The labels of host names.
Main exports:
  LabelFault, LabelFault.message, labelFault?, isLabel, codeFault?, asciiLabel?
-/
import AffinityPool.HostName.Composition
import AffinityPool.HostName.Direction
import AffinityPool.HostName.Joining
import AffinityPool.HostName.Punycode
import AffinityPool.HostName.Repertoire

namespace AffinityPool.HostName

/-!
A label is a sequence of allowed characters, in composed form, with hyphens only
inside and not where an ASCII form would have them.  A few more characters are
allowed beside certain neighbours.  In ASCII a label beyond ASCII is its code
behind four characters that tell so, and a label that begins with those must be
the code of a label.
-/

/-- Runs of Greek characters. -/
def greekRuns : List (Nat × Nat) :=
  [(881, 881), (883, 883), (885, 885), (887, 887), (891, 893), (912, 912), (940, 974), (983, 983),
   (985, 985), (987, 987), (989, 989), (991, 991), (993, 993), (1011, 1011), (1016, 1016),
   (1019, 1020), (7462, 7466), (7936, 7943), (7952, 7957), (7968, 7975), (7984, 7991),
   (8000, 8005), (8016, 8023), (8032, 8039), (8048, 8048), (8050, 8050), (8052, 8052),
   (8054, 8054), (8056, 8056), (8058, 8058), (8060, 8060), (8112, 8113), (8118, 8118),
   (8134, 8134), (8144, 8146), (8150, 8151), (8160, 8162), (8164, 8167), (8182, 8182),
   (43877, 43877)]

/-- Runs of Hebrew characters. -/
def hebrewRuns : List (Nat × Nat) :=
  [(1425, 1469), (1471, 1471), (1473, 1474), (1476, 1477), (1479, 1479), (1488, 1514),
   (1519, 1524), (64286, 64286)]

/-- Runs of Hiragana, Katakana and Han characters. -/
def eastAsianRuns : List (Nat × Nat) :=
  [(12293, 12293), (12295, 12295), (12353, 12438), (12445, 12446), (12449, 12538), (12541, 12542),
   (12784, 12799), (13312, 19903), (19968, 40959), (64014, 64015), (64017, 64017), (64019, 64020),
   (64031, 64031), (64033, 64033), (64035, 64036), (64039, 64041), (94179, 94179), (94192, 94193),
   (110576, 110579), (110581, 110587), (110589, 110590), (110592, 110882), (110928, 110930),
   (110948, 110951), (131072, 173791), (173824, 177976), (177984, 178205), (178208, 183969),
   (183984, 191456), (196608, 201546)]

/-- Whether a character stands behind a sign that silences a vowel. -/
def followsVirama (before : List Char) : Bool :=
  match before with
  | c :: _ => combiningClass c = 9
  | [] => false

/-- Whether a character stands in runs, if it is there. -/
def isIn (runs : List (Nat × Nat)) (c : Option Char) : Bool := c.any (Text.inRuns runs)

/-- Whether a character of a label may stand between what is before it, the last
character first, and what is after it. -/
def isAllowedBetween (label before : List Char) (c : Char) (after : List Char) : Bool :=
  let n := c.toNat
  if isAllowed c then true
  else if n = 0x200C then
    followsVirama before || (joinsForward before && joinsBackward after)
  else if n = 0x200D then followsVirama before
  else if n = 0xB7 then before.head? = some 'l' && after.head? = some 'l'
  else if n = 0x375 then isIn greekRuns after.head?
  else if n = 0x5F3 || n = 0x5F4 then isIn hebrewRuns before.head?
  else if n = 0x30FB then label.any (Text.inRuns eastAsianRuns)
  else if 0x660 ≤ n && n ≤ 0x669 then !label.any (Text.inRuns [(0x6F0, 0x6F9)])
  else if 0x6F0 ≤ n && n ≤ 0x6F9 then !label.any (Text.inRuns [(0x660, 0x669)])
  else false

/-- Why characters are no label. -/
inductive LabelFault where
  | empty
  | notComposed
  | innerHyphens
  | outerHyphen
  | leadingMark
  /-- A character may not stand where it does. -/
  | character (c : Char) (position : Nat)
  | direction (fault : DirectionFault)
deriving Repr, DecidableEq

/-- Whether a character joins the letters beside it. -/
def isJoiner (c : Char) : Bool := c = '\u200C' || c = '\u200D'

/-- Whether it depends on its neighbours where a character may stand. -/
def isContextual (c : Char) : Bool :=
  isJoiner c ||
    Text.inRuns [(0xB7, 0xB7), (0x375, 0x375), (0x5F3, 0x5F4), (0x660, 0x669), (0x6F0, 0x6F9),
      (0x30FB, 0x30FB)] c

/-- The text of a fault in a label. -/
def LabelFault.message (label : List Char) : LabelFault → String
  | .empty => "Empty Label"
  | .notComposed => "Label must be in Normalization Form C"
  | .innerHyphens => "Label has disallowed hyphens in 3rd and 4th position"
  | .outerHyphen => "Label must not start or end with a hyphen"
  | .leadingMark => "Label begins with an illegal combining character"
  | .character c position =>
      let shown := Text.quoted (String.ofList label)
      let digits := (Nat.toDigits 16 c.toNat).map Char.toUpper
      let code := "U+" ++ String.ofList (List.replicate (4 - digits.length) '0' ++ digits)
      if isJoiner c then
        s!"Unknown codepoint adjacent to joiner {code} at position {position} in {shown}"
      else if isContextual c then
        s!"Codepoint {code} not allowed at position {position} in {shown}"
      else s!"Codepoint {code} at position {position} of {shown} not allowed"
  | .direction fault => fault.message label

/-- The first character of a label that may not stand where it does, behind those
before it, the last one first. -/
def strayCharacter? (label before : List Char) : List Char → Option LabelFault
  | [] => none
  | c :: rest =>
      if isAllowedBetween label before c rest then strayCharacter? label (c :: before) rest
      else some (.character c (before.length + 1))

/-- Why characters are no label, if they are none. -/
def labelFault? (label : List Char) : Option LabelFault :=
  if label.isEmpty then some .empty
  else if !isComposed label then some .notComposed
  else if (label.drop 2).take 2 = ['-', '-'] then some .innerHyphens
  else if label.head? = some '-' || label.getLast? = some '-' then some .outerHyphen
  else if label.head?.any isMark then some .leadingMark
  else (strayCharacter? label [] label).or ((directionFault? label).map .direction)

/-- The longest label that is looked at. -/
def maxLabelLength : Nat := 254

/-- Whether characters are a label. -/
def isLabel (label : List Char) : Bool :=
  label.length ≤ maxLabelLength && (labelFault? label).isNone

/-- What a label that is a code begins with. -/
def codeMark : List Char := ['x', 'n', '-', '-']

/-- Why a label in ASCII is not sound. -/
inductive CodeFault where
  | noCode
  | hyphenBehindCode
  | badCode
  /-- The label, or the one that is coded, is none. -/
  | noLabel (label : List Char) (fault : LabelFault)
deriving Repr, DecidableEq

/-- The kinds of faults. -/
inductive CodeFault.Kind where
  | form
  /-- A character may stand nowhere. -/
  | character
  /-- A character may not stand beside its neighbours. -/
  | context
  | direction
deriving Repr, DecidableEq

/-- The kind of a fault. -/
def CodeFault.kind : CodeFault → CodeFault.Kind
  | .noLabel _ (.character c _) =>
      if isJoiner c then .form else if isContextual c then .context else .character
  | .noLabel _ (.direction _) => .direction
  | _ => .form

/-- The text of a fault. -/
def CodeFault.message : CodeFault → String
  | .noCode => "Malformed A-label, no Punycode eligible content found"
  | .hyphenBehindCode => "A-label must not end with a hyphen"
  | .badCode => "Invalid A-label"
  | .noLabel label fault => fault.message label

/-- Why a label in ASCII is not sound, if it is not: it must be a label, or the
code of one. -/
def codeFault? (label : List Char) : Option CodeFault :=
  if codeMark.isPrefixOf label then
    let code := label.drop codeMark.length
    if code.isEmpty then some .noCode
    else if code.getLast? = some '-' then some .hyphenBehindCode
    else
      match Punycode.decode? code with
      | some label => (labelFault? label).map (.noLabel label)
      | none => some .badCode
  else (labelFault? label).map (.noLabel label)

/-- The longest label in ASCII. -/
def maxAsciiLength : Nat := 63

/-- The ASCII form of a label. -/
def asciiLabel? (label : List Char) : Option (List Char) :=
  let isAscii := label.all fun c => c.toNat < 0x80
  let form := if isAscii then label else codeMark ++ Punycode.encode label
  let isSound := if isAscii then (codeFault? label).isNone else isLabel label
  if isSound && form.length ≤ maxAsciiLength then some form else none

end AffinityPool.HostName
