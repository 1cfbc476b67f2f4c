/-
Module: AffinityPool.Settings.IntegerText
Purpose: The integers that texts write, in a plain form and in a generous one.
Main exports:
  IntegerText.Fault, IntegerText.plain, IntegerText.cleaned?, IntegerText.read
-/
import AffinityPool.Text.Blank
import AffinityPool.Text.Digit

namespace AffinityPool.Settings.IntegerText

/-!
The plain form is a minus sign or none and then digits without a zero in front.
A text in any other form is cleaned first: blanks around it go, a sign goes,
leading zeros go, a fraction of zeros goes, and single underscores between
digits go.  What is left must be in the plain form, with a minus sign of its own
if there was none in front of the zeros.
-/

/-- Why a text writes no integer. -/
inductive Fault where
  | unreadable
  /-- The plain form, with more digits than are converted. -/
  | oversized
deriving Repr, DecidableEq

/-- The digits of a plain number at the start of a text: a lone zero, or digits
without a zero in front. -/
def plainDigits (chars : List Char) : List Char :=
  match chars with
  | '0' :: c :: _ => if c.isDigit then [] else ['0']
  | ['0'] => ['0']
  | chars => chars.takeWhile (·.isDigit)

/-- Read digits in the plain form.  Too many digits are told as such whatever
stands behind them. -/
def plainNatural (chars : List Char) : Except Fault Nat :=
  let digits := plainDigits chars
  if Text.maxIntegerDigits < digits.length then .error .oversized
  else if digits.isEmpty || digits.length < chars.length then .error .unreadable
  else .ok (Text.decimalNumber digits)

/-- Read an integer in the plain form. -/
def plain : List Char → Except Fault Int
  | '-' :: rest => (plainNatural rest).map fun n => -(n : Int)
  | chars => (plainNatural chars).map fun n => (n : Int)

/-- Whether a character starts a number that has no zero in front. -/
def startsNumber (c : Char) : Bool := ('1' ≤ c && c ≤ '9') || c = '-'

/-- Skip zeros, and underscores among them.  `last` is the character skipped
last; it stays if the text or its whole part ends with it. -/
def dropZeros? (last : Char) : List Char → Option (List Char)
  | [] => some [last]
  | c :: rest =>
      if c = '0' ∨ c = '_' then dropZeros? c rest
      else if startsNumber c then some (c :: rest)
      else if c = '.' then some (last :: c :: rest)
      else none

/-- A number without the zeros in front of it. -/
def dropLeadingZeros? : List Char → Option (List Char)
  | [] => none
  | c :: rest =>
      if c = '0' then dropZeros? '0' rest
      else if startsNumber c then some (c :: rest)
      else none

/-- Drop a decimal point with zeros, at least one, behind it. -/
def dropZeroFraction (chars : List Char) : List Char :=
  match chars.dropWhile (· ≠ '.') with
  | '.' :: fraction =>
      if !fraction.isEmpty && fraction.all (· = '0') then chars.takeWhile (· ≠ '.') else chars
  | _ => chars

/-- Whether two underscores stand side by side. -/
def hasDoubleUnderscore : List Char → Bool
  | '_' :: '_' :: _ => true
  | _ :: rest => hasDoubleUnderscore rest
  | [] => false

/-- Drop underscores, if none of them stands at an end or beside another one. -/
def dropUnderscores (chars : List Char) : List Char :=
  if chars.head? = some '_' || chars.getLast? = some '_' || hasDoubleUnderscore chars then chars
  else chars.filter (· ≠ '_')

/-- What is left of a text when everything that the generous form allows is
gone. -/
def cleaned? (chars : List Char) : Option (List Char) :=
  let chars := Text.trimmed Text.isBlank chars
  let (negative, unsigned) := match chars with
    | '-' :: rest => (true, rest)
    | '+' :: rest => (false, rest)
    | chars => (false, chars)
  (dropLeadingZeros? unsigned).map fun digits =>
    let digits := dropUnderscores (dropZeroFraction digits)
    if negative then '-' :: digits else digits

/-- The integer a text writes.  Only the plain form can be too long; a text that
is too long once it is cleaned is unreadable. -/
def read (text : String) : Except Fault Int :=
  match plain text.toList with
  | .ok n => .ok n
  | .error .oversized => .error .oversized
  | .error .unreadable =>
      match cleaned? text.toList with
      | none => .error .unreadable
      | some chars => (plain chars).mapError fun _ => .unreadable

end AffinityPool.Settings.IntegerText
