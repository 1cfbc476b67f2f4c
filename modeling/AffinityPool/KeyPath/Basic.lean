/-
Module: AffinityPool.KeyPath.Basic
Purpose: Key paths: their segments and the reading of their text.
Main exports:
  Segment, KeyPath, KeyPath.Fault, KeyPath.parse
-/
import AffinityPool.Text.Digit
import AffinityPool.Text.Quoted
import AffinityPool.Text.Split

namespace AffinityPool

/-- One step of a key path: into a field, or to a position of a sequence. -/
inductive Segment where
  | field (name : String)
  | index (position : Nat)
deriving Repr, DecidableEq, Inhabited

/-- A key path, from the message inwards. -/
abbrev KeyPath := List Segment

namespace Segment

/-- A segment as it is shown inside a message. -/
def shown : Segment → String
  | .field name => name
  | .index position => toString position

end Segment

namespace KeyPath

/-!
A path is written as pieces between dots.  A piece of digits is a position; a
piece may end in bracketed positions, with or without a name in front; any
other piece without brackets is a name.  Digits may come from any script.

Two rules are wider than they look.  A piece that merely shows digits, such as
a superscript, counts as digits and then fails to be a number.  And the name in
front of brackets is never read as a position, whatever it consists of; there,
one line feed behind the last bracket is passed over.
-/

/-- Why a text is no key path. -/
inductive Fault where
  | empty
  | emptySegment (path : String)
  | malformed (segment path : String)
  /-- Digits that are not all decimal digits. -/
  | notDecimal (digits : String)
  /-- More digits than a number may have. -/
  | tooManyDigits (count : Nat)
deriving Repr, DecidableEq

/-- The text of the digit limit's violation. -/
def digitLimitMessage (count : Nat) : String :=
  s!"Exceeds the limit (4300 digits) for integer string conversion: value has {count} digits; " ++
    "use sys.set_int_max_str_digits() to increase the limit"

/-- The text of a fault.  A quoted piece of digits is cut to 200 characters. -/
def Fault.message : Fault → String
  | .empty => "Key path must not be empty"
  | .emptySegment path => s!"Empty segment in key path '{path}'"
  | .malformed segment path => s!"Malformed segment '{segment}' in key path '{path}'"
  | .notDecimal digits =>
      "invalid literal for int() with base 10: " ++
        String.ofList ((Text.quoted digits).toList.take 200)
  | .tooManyDigits count => digitLimitMessage count

/-- Read digits as a position.  The limit is checked on the decimal digits in
front of the first character that is none. -/
def position (digits : List Char) : Except Fault Nat :=
  let decimals := digits.takeWhile Text.isDecimal
  if Text.maxIntegerDigits < decimals.length then .error (.tooManyDigits decimals.length)
  else if decimals.length < digits.length then .error (.notDecimal (String.ofList digits))
  else .ok (Text.decimalNumber digits)

/-- Whether a character is a bracket. -/
def isBracket (c : Char) : Bool := c = '[' || c = ']'

/-- The digits of bracketed groups that fill a text, up to one final line feed.
`fuel` bounds the number of groups. -/
def groupsUpTo? : (fuel : Nat) → List Char → Option (List (List Char))
  | 0, _ => none
  | fuel + 1, chars =>
      match chars with
      | '[' :: inner =>
          match inner.takeWhile Text.isDecimal, inner.dropWhile Text.isDecimal with
          | [], _ => none
          | digits, [']'] => some [digits]
          | digits, [']', '\n'] => some [digits]
          | digits, ']' :: rest => (groupsUpTo? fuel rest).map (digits :: ·)
          | _, _ => none
      | _ => none

/-- The name and the digits of a piece that ends in at least one bracketed
group.  Each group has a bracket of its own, so the length is fuel enough. -/
def bracketed? (piece : List Char) : Option (List Char × List (List Char)) :=
  let name := piece.takeWhile fun c => !isBracket c
  let groups := piece.dropWhile fun c => !isBracket c
  (groupsUpTo? groups.length groups).map (name, ·)

/-- The name in front of brackets as a segment, if there is one. -/
def namedSegment (name : List Char) : List Segment :=
  match name with
  | [] => []
  | name => [.field (String.ofList name)]

/-- The segments of one piece. -/
def pieceSegments (path : String) (piece : List Char) : Except Fault (List Segment) :=
  if piece.isEmpty then .error (.emptySegment path)
  else if piece.all Text.isDigit then do
    let n ← position piece
    .ok [.index n]
  else
    match bracketed? piece with
    | some (name, groups) => do
        let positions ← groups.mapM position
        .ok (namedSegment name ++ positions.map .index)
    | none =>
        if piece.any isBracket then .error (.malformed (String.ofList piece) path)
        else .ok [.field (String.ofList piece)]

/-- Read a text as a key path.  The first faulty piece decides the fault. -/
def parse (path : String) : Except Fault KeyPath :=
  if path.toList.isEmpty then .error .empty
  else do
    let segments ← (Text.pieces '.' path.toList).mapM (pieceSegments path)
    .ok segments.flatten

end KeyPath

end AffinityPool
