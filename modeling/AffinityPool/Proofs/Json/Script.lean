/-
Module: AffinityPool.Proofs.Json.Script
Purpose: The ways to write a JSON document, with blanks, escapes and numbers of every form.
Main exports:
  Json.Stroke, Json.Number, Json.Script, Json.Script.chars, Json.Script.value, Json.Script.depth,
  Json.Script.Short, Json.Page
-/
import AffinityPool.Json.Reader

namespace AffinityPool.Json

open Text (Letter LooseText)

/-!
A text of the format is a tree: a value is a word, a number, a text, or a container with values in
it, and blanks may stand around every part.  The tree is kept here with all that can be written in
more than one way, so that its characters are a function of it, and so is the document that it
writes.  Half of a surrogate pair cannot be written alone.
-/

/-! ### Blanks -/

/-- The blank characters of the format. -/
inductive Blank where
  | space
  | tab
  | lineFeed
  | carriageReturn
deriving Repr, DecidableEq

def Blank.char : Blank → Char
  | .space => ' '
  | .tab => '\t'
  | .lineFeed => '\n'
  | .carriageReturn => '\r'

/-- The blanks around a part. -/
structure Margins where
  before : List Blank
  after : List Blank
deriving Repr, DecidableEq

/-- A part with its blanks. -/
def Margins.around (margins : Margins) (part : List Char) : List Char :=
  margins.before.map Blank.char ++ (part ++ margins.after.map Blank.char)

/-! ### Texts -/

/-- A code unit in hexadecimal digits. -/
structure Code where
  first : Char
  second : Char
  third : Char
  fourth : Char
  unit : Nat
  reads : codeUnit? first second third fourth = some unit

/-- A code unit as an escape. -/
def Code.chars (code : Code) : List Char :=
  ['\\', 'u', code.first, code.second, code.third, code.fourth]

/-- One way to write a character of a text. -/
inductive Stroke where
  /-- The character itself. -/
  | plain (c : Char) (inner : c ≠ '"' ∧ c ≠ '\\' ∧ 0x20 ≤ c.toNat)
  /-- A backslash and a letter. -/
  | short (mark c : Char) (reads : shortEscape? mark = some c)
  /-- A code unit that is a character. -/
  | coded (code : Code) (alone : Letter.isHalf code.unit = false)
  /-- Both halves of a surrogate pair. -/
  | paired (high low : Code) (pair : Letter.arePair high.unit low.unit = true)

namespace Stroke

/-- The character that is written. -/
def char : Stroke → Char
  | .plain c _ => c
  | .short _ c _ => c
  | .coded code _ => Char.ofNat code.unit
  | .paired high low _ => Letter.pairChar high.unit low.unit

/-- How it is written. -/
def chars : Stroke → List Char
  | .plain c _ => [c]
  | .short mark _ _ => ['\\', mark]
  | .coded code _ => code.chars
  | .paired high low _ => high.chars ++ low.chars

/-- A text between its marks. -/
def quoted (strokes : List Stroke) : List Char := '"' :: (strokes.flatMap chars ++ ['"'])

/-- The text that strokes write. -/
def text (strokes : List Stroke) : LooseText := .ofChars (strokes.map char)

end Stroke

/-! ### Numbers -/

/-- Digits, and at least one. -/
def AreNumeralDigits (digits : List Char) : Prop :=
  digits ≠ [] ∧ ∀ c ∈ digits, isNumeralDigit (.char c) = true

/-- A number as it is written. -/
structure Number where
  numeral : Numeral
  /-- Whether the mark of the exponent is a capital letter. -/
  capital : Bool
  /-- Whether an exponent without a minus sign has a plus sign. -/
  plus : Bool
  whole : AreNumeralDigits numeral.whole
  /-- Only a zero that is alone comes first. -/
  first : numeral.whole.head? = some '0' → numeral.whole = ['0']
  fraction : ∀ digits, numeral.fraction = some digits → AreNumeralDigits digits
  exponent : ∀ negative digits, numeral.exponent = some (negative, digits) →
    AreNumeralDigits digits

namespace Number

/-- The sign of an exponent. -/
def signChars (number : Number) (negative : Bool) : List Char :=
  if negative then ['-'] else if number.plus then ['+'] else []

def exponentChars (number : Number) : List Char :=
  match number.numeral.exponent with
  | none => []
  | some (negative, digits) =>
      (if number.capital then 'E' else 'e') :: (number.signChars negative ++ digits)

def fractionChars (number : Number) : List Char :=
  match number.numeral.fraction with
  | none => []
  | some digits => '.' :: digits

/-- A number behind its sign. -/
def unsignedChars (number : Number) : List Char :=
  number.numeral.whole ++ (number.fractionChars ++ number.exponentChars)

def chars (number : Number) : List Char :=
  if number.numeral.negative then '-' :: number.unsignedChars else number.unsignedChars

/-- The power of ten in a number. -/
def power (number : Number) : Int :=
  match number.numeral.exponent with
  | none => 0
  | some (true, digits) => -(Text.decimalNumber digits : Int)
  | some (false, digits) => (Text.decimalNumber digits : Int)

/-- What a number says: an integer if it has neither fraction nor exponent, and otherwise the
nearest double. -/
def value (number : Number) : Json :=
  match number.numeral.fraction, number.numeral.exponent with
  | none, none =>
      let whole : Int := Text.decimalNumber number.numeral.whole
      .int (if number.numeral.negative then -whole else whole)
  | fraction, _ =>
      let decimals := fraction.getD []
      .float (.ofDecimal number.numeral.negative
        (Text.decimalNumber (number.numeral.whole ++ decimals)) (number.power - decimals.length))

end Number

/-! ### Values -/

/-- The name of a member, with blanks around it. -/
structure Label where
  margins : Margins
  strokes : List Stroke

/-- A name up to its colon. -/
def Label.chars (label : Label) : List Char :=
  label.margins.around (Stroke.quoted label.strokes) ++ [':']

mutual

/-- A value as it is written. -/
inductive Script where
  | null
  | bool (value : Bool)
  | number (number : Number)
  | text (strokes : List Stroke)
  /-- A container with nothing but blanks in it. -/
  | hollow (container : Container) (inside : List Blank)
  | array (items : Items)
  | object (entries : Entries)

/-- The items of an array, and there is one. -/
inductive Items where
  | last (margins : Margins) (item : Script)
  | more (margins : Margins) (item : Script) (others : Items)

/-- The members of an object, and there is one. -/
inductive Entries where
  | last (label : Label) (margins : Margins) (value : Script)
  | more (label : Label) (margins : Margins) (value : Script) (others : Entries)

end

mutual

/-- The characters of a value. -/
def Script.chars : Script → List Char
  | .null => ['n', 'u', 'l', 'l']
  | .bool true => ['t', 'r', 'u', 'e']
  | .bool false => ['f', 'a', 'l', 's', 'e']
  | .number number => number.chars
  | .text strokes => Stroke.quoted strokes
  | .hollow .array inside => '[' :: (inside.map Blank.char ++ [']'])
  | .hollow .object inside => '\x7b' :: (inside.map Blank.char ++ ['\x7d'])
  | .array items => '[' :: (items.chars ++ [']'])
  | .object entries => '\x7b' :: (entries.chars ++ ['\x7d'])

/-- The characters of items, with commas between them. -/
def Items.chars : Items → List Char
  | .last margins item => margins.around item.chars
  | .more margins item others => margins.around item.chars ++ ',' :: others.chars

/-- The characters of members, with commas between them. -/
def Entries.chars : Entries → List Char
  | .last label margins value => label.chars ++ margins.around value.chars
  | .more label margins value others =>
      label.chars ++ (margins.around value.chars ++ ',' :: others.chars)

end

mutual

/-- The document that is written. -/
def Script.value : Script → Json
  | .null => .null
  | .bool value => .bool value
  | .number number => number.value
  | .text strokes => .text (Stroke.text strokes)
  | .hollow .array _ => .array []
  | .hollow .object _ => .object []
  | .array items => .array items.values
  | .object entries => .object (entries.onto [])

def Items.values : Items → List Json
  | .last _ item => [item.value]
  | .more _ item others => item.value :: others.values

/-- The members of an object behind those before.  Of several values for one name the last
counts. -/
def Entries.onto (before : Members) : Entries → Members
  | .last label _ value => Members.set before (Stroke.text label.strokes) value.value
  | .more label _ value others =>
      others.onto (Members.set before (Stroke.text label.strokes) value.value)

end

mutual

/-- How many containers stand inside one another.  Those without content count if told so. -/
def Script.depth (countsEmpty : Bool) : Script → Nat
  | .null | .bool _ | .number _ | .text _ => 0
  | .hollow _ _ => if countsEmpty then 1 else 0
  | .array items => items.depth countsEmpty + 1
  | .object entries => entries.depth countsEmpty + 1

def Items.depth (countsEmpty : Bool) : Items → Nat
  | .last _ item => item.depth countsEmpty
  | .more _ item others => max (item.depth countsEmpty) (others.depth countsEmpty)

def Entries.depth (countsEmpty : Bool) : Entries → Nat
  | .last _ _ value => value.depth countsEmpty
  | .more _ _ value others => max (value.depth countsEmpty) (others.depth countsEmpty)

end

mutual

/-- Whether no number has more digits in its whole part than are converted. -/
def Script.Short : Script → Prop
  | .number number => number.numeral.whole.length ≤ Text.maxIntegerDigits
  | .null | .bool _ | .text _ | .hollow _ _ => True
  | .array items => items.Short
  | .object entries => entries.Short

def Items.Short : Items → Prop
  | .last _ item => item.Short
  | .more _ item others => item.Short ∧ others.Short

def Entries.Short : Entries → Prop
  | .last _ _ value => value.Short
  | .more _ _ value others => value.Short ∧ others.Short

end

/-- A whole text: a value with blanks around it. -/
structure Page where
  margins : Margins
  script : Script

/-- The characters of a text. -/
def Page.chars (page : Page) : List Char := page.margins.around page.script.chars

/-- The document of a text. -/
def Page.value (page : Page) : Json := page.script.value

end AffinityPool.Json
