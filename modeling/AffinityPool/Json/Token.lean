/-
Module: AffinityPool.Json.Token
Purpose: The tokens of a JSON text.
Main exports:
  Numeral, Token, tokens
-/
import AffinityPool.Json.Basic

namespace AffinityPool.Json

open Text (Letter)

/-!
A text is cut into tokens before any structure is recognised.  The first
character that starts no token becomes `Token.invalid`, and nothing behind it
is read.  Blanks separate tokens and leave no trace, so two texts that differ
only in the kind of blank between tokens have the same tokens.  Halves of
surrogate pairs may stand in the bodies of texts and nowhere else.
-/

/-- The written form of a number. -/
structure Numeral where
  negative : Bool
  whole : List Char
  fraction : Option (List Char)
  /-- The sign of the exponent and its digits. -/
  exponent : Option (Bool × List Char)
deriving Repr, DecidableEq

/-- A lexical unit of a JSON text. -/
inductive Token where
  | openArray
  | closeArray
  | openObject
  | closeObject
  | comma
  | colon
  | null
  | bool (value : Bool)
  | nan
  | infinity (negative : Bool)
  | number (numeral : Numeral)
  | text (value : Text.LooseText)
  | invalid
deriving Repr, DecidableEq

/-- The four blank characters of the format. -/
def isSpace : Letter → Bool
  | .char c => c = ' ' || c = '\t' || c = '\n' || c = '\r'
  | .half _ => false

/-- An ASCII digit; no other digit may appear in a number. -/
def isNumeralDigit : Letter → Bool
  | .char c => '0' ≤ c && c ≤ '9'
  | .half _ => false

/-- The value of a hexadecimal digit. -/
def hexValue? (c : Char) : Option Nat :=
  if '0' ≤ c ∧ c ≤ '9' then some (c.toNat - '0'.toNat)
  else if 'a' ≤ c ∧ c ≤ 'f' then some (c.toNat - 'a'.toNat + 10)
  else if 'A' ≤ c ∧ c ≤ 'F' then some (c.toNat - 'A'.toNat + 10)
  else none

/-- The code unit written by four hexadecimal digits. -/
def codeUnit? (a b c d : Char) : Option Nat := do
  let a ← hexValue? a
  let b ← hexValue? b
  let c ← hexValue? c
  let d ← hexValue? d
  some (((a * 16 + b) * 16 + c) * 16 + d)

/-- The character of a one-letter escape. -/
def shortEscape? : Char → Option Char
  | '"' => some '"'
  | '\\' => some '\\'
  | '/' => some '/'
  | 'b' => some '\x08'
  | 'f' => some '\x0c'
  | 'n' => some '\n'
  | 'r' => some '\r'
  | 't' => some '\t'
  | _ => none

/-- What stands in the body of a text: a letter, or a code unit that is written
as an escape. -/
inductive Written where
  | letter (letter : Letter)
  | unit (unit : Nat)
deriving Repr, DecidableEq

/-- Whether a letter may stand in the body of a text.  Backslashes and control
characters must be escaped. -/
def standsAlone : Letter → Bool
  | .char c => c ≠ '\\' && 0x20 ≤ c.toNat
  | .half _ => true

/-- Read the body of a text up to its closing mark. -/
def bodyOf? : List Letter → Option (List Written × List Letter)
  | [] => none
  | .char '"' :: rest => some ([], rest)
  | .char '\\' :: .char 'u' :: .char a :: .char b :: .char c :: .char d :: rest => do
      let unit ← codeUnit? a b c d
      let (body, after) ← bodyOf? rest
      some (.unit unit :: body, after)
  | .char '\\' :: .char c :: rest => do
      let escaped ← shortEscape? c
      let (body, after) ← bodyOf? rest
      some (.letter (.char escaped) :: body, after)
  | letter :: rest =>
      if standsAlone letter then do
        let (body, after) ← bodyOf? rest
        some (.letter letter :: body, after)
      else none

/-- The letters of a body.  Two escapes side by side that make a pair are one
character; a half that was not escaped keeps to itself. -/
def joinPairs : List Written → List Letter
  | [] => []
  | .unit high :: .unit low :: rest =>
      if Letter.arePair high low then .char (Letter.pairChar high low) :: joinPairs rest
      else Letter.ofUnit high :: joinPairs (.unit low :: rest)
  | .unit unit :: rest => Letter.ofUnit unit :: joinPairs rest
  | .letter letter :: rest => letter :: joinPairs rest

/-- The digits at the start of a text, and the rest. -/
def digitsOf (letters : List Letter) : List Char × List Letter :=
  ((letters.takeWhile isNumeralDigit).filterMap Letter.char?, letters.dropWhile isNumeralDigit)

/-- The digits of a whole part: a lone zero, or digits that start with none. -/
def wholePart? (letters : List Letter) : Option (List Char × List Letter) :=
  match letters with
  | .char '0' :: rest => some (['0'], rest)
  | _ =>
      match digitsOf letters with
      | ([], _) => none
      | found => some found

/-- The fraction of a number, if a point and a digit follow. -/
def fractionPart (letters : List Letter) : Option (List Char) × List Letter :=
  match letters with
  | .char '.' :: rest =>
      match digitsOf rest with
      | ([], _) => (none, letters)
      | (digits, after) => (some digits, after)
  | _ => (none, letters)

/-- The sign in front of exponent digits; without one the exponent is positive. -/
def exponentSign : List Letter → Bool × List Letter
  | .char '+' :: rest => (false, rest)
  | .char '-' :: rest => (true, rest)
  | rest => (false, rest)

/-- The exponent of a number, if its letter and a digit follow. -/
def exponentPart (letters : List Letter) : Option (Bool × List Char) × List Letter :=
  match letters with
  | .char c :: rest =>
      if c = 'e' ∨ c = 'E' then
        let (negative, rest) := exponentSign rest
        match digitsOf rest with
        | ([], _) => (none, letters)
        | (digits, after) => (some (negative, digits), after)
      else (none, letters)
  | _ => (none, letters)

/-- A number behind its sign. -/
def numeral? (negative : Bool) (letters : List Letter) : Option (Numeral × List Letter) := do
  let (whole, rest) ← wholePart? letters
  let (fraction, rest) := fractionPart rest
  let (exponent, rest) := exponentPart rest
  some ({ negative, whole, fraction, exponent }, rest)

/-- Take a word off the front of a text. -/
def dropWord? (word : String) (letters : List Letter) : Option (List Letter) :=
  let word := word.toList.map Letter.char
  if word.isPrefixOf letters then some (letters.drop word.length) else none

/-- The words of the format, each with its token. -/
def words : List (String × Token) :=
  [("null", .null), ("true", .bool true), ("false", .bool false), ("NaN", .nan),
    ("Infinity", .infinity false), ("-Infinity", .infinity true)]

/-- The token of the word at the start of a text, and the rest. -/
def word? (letters : List Letter) : Option (Token × List Letter) :=
  words.findSome? fun (word, token) => (dropWord? word letters).map (token, ·)

/-- The number at the start of a text, and the rest. -/
def number? (letters : List Letter) : Option (Token × List Letter) :=
  let found := match letters with
    | .char '-' :: rest => numeral? true rest
    | _ => numeral? false letters
  found.map fun (numeral, rest) => (.number numeral, rest)

/-- The first token of a text that starts with no blank, and the rest. -/
def firstToken (letters : List Letter) : Token × List Letter :=
  match letters with
  | .char '[' :: rest => (.openArray, rest)
  | .char ']' :: rest => (.closeArray, rest)
  | .char '\x7b' :: rest => (.openObject, rest)
  | .char '\x7d' :: rest => (.closeObject, rest)
  | .char ',' :: rest => (.comma, rest)
  | .char ':' :: rest => (.colon, rest)
  | .char '"' :: rest =>
      match bodyOf? rest with
      | some (body, after) => (.text ⟨joinPairs body⟩, after)
      | none => (.invalid, [])
  | _ => ((word? letters).or (number? letters)).getD (.invalid, [])

/-- Cut a text into tokens, at most one for each unit of fuel. -/
def tokensUpTo : (fuel : Nat) → List Letter → List Token
  | 0, _ => []
  | _, [] => []
  | fuel + 1, letter :: rest =>
      if isSpace letter then tokensUpTo fuel rest
      else
        let (token, after) := firstToken (letter :: rest)
        token :: tokensUpTo fuel after

/-- The tokens of a text.  Every token and every blank takes at least one
letter, so the length of the text is fuel enough. -/
def tokens (letters : List Letter) : List Token := tokensUpTo letters.length letters

end AffinityPool.Json
