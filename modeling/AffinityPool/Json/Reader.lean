/-
Module: AffinityPool.Json.Reader
Purpose: From tokens to documents.
Main exports:
  Container, Dialect, ReadError, Numeral.toJson, readLetters, read
-/
import AffinityPool.Json.Token
import AffinityPool.Text.Digit

namespace AffinityPool.Json

/-!
Both dialects in use accept `NaN`, `Infinity` and `-Infinity` as numbers, and
of several members with one name the last value counts.  They differ in how
deep a document may nest, in what becomes of half a surrogate pair, and in how
long the whole part of a fractional number may be.
-/

/-- The two kinds of container. -/
inductive Container where
  | array
  | object
deriving Repr, DecidableEq

/-- What a reader accepts beyond the common grammar. -/
structure Dialect where
  /-- How many containers may be open at once. -/
  maxDepth : Nat
  /-- Whether a container without content counts as open. -/
  countsEmpty : Bool
  /-- Whether half of a surrogate pair may stand in a text alone. -/
  loneSurrogates : Bool
  /-- Whether the whole part of a fractional number may have any length. -/
  longFractions : Bool
deriving Repr, DecidableEq

/-- Why a text is no document. -/
inductive ReadError where
  | malformed
  /-- A whole number of more digits than a reader converts. -/
  | tooManyDigits (count : Nat)
  /-- One container too many was opened. -/
  | tooDeep (container : Container)
deriving Repr, DecidableEq

/-- The value of a number: whole if it has neither fraction nor exponent, and
otherwise the nearest double. -/
def Numeral.toJson (dialect : Dialect) (n : Numeral) : Except ReadError Json :=
  let isWhole := n.fraction.isNone && n.exponent.isNone
  if Text.maxIntegerDigits < n.whole.length && (isWhole || !dialect.longFractions) then
    .error (.tooManyDigits n.whole.length)
  else if isWhole then
    let value : Int := Text.decimalNumber n.whole
    .ok (.int (if n.negative then -value else value))
  else
    let decimals := n.fraction.getD []
    let power : Int := match n.exponent with
      | none => 0
      | some (negative, digits) =>
          if negative then -(Text.decimalNumber digits : Int) else Text.decimalNumber digits
    .ok (.float (.ofDecimal n.negative (Text.decimalNumber (n.whole ++ decimals))
      (power - decimals.length)))

/-- Open a container: the depth that is left inside of it. -/
def deeper (container : Container) : (depth : Nat) → Except ReadError Nat
  | 0 => .error (.tooDeep container)
  | depth + 1 => .ok depth

/-- Open a container that has no content. -/
def openEmpty (dialect : Dialect) (container : Container) (depth : Nat) :
    Except ReadError Unit :=
  if dialect.countsEmpty then (deeper container depth).map fun _ => () else .ok ()

/-- Whether a text may stand in a document. -/
def isAccepted (dialect : Dialect) (text : Text.LooseText) : Bool :=
  dialect.loneSurrogates || text.isWhole

mutual

/-- Read one value.  `depth` is how many containers may still be opened. -/
def readValue (dialect : Dialect) : (fuel : Nat) → (depth : Nat) → List Token →
    Except ReadError (Json × List Token)
  | 0, _, _ => .error .malformed
  | fuel + 1, depth, toks =>
      match toks with
      | .null :: rest => .ok (.null, rest)
      | .bool value :: rest => .ok (.bool value, rest)
      | .nan :: rest => .ok (.float .nan, rest)
      | .infinity negative :: rest => .ok (.float (.infinite negative), rest)
      | .number numeral :: rest => do
          let value ← numeral.toJson dialect
          .ok (value, rest)
      | .text value :: rest =>
          if isAccepted dialect value then .ok (.text value, rest) else .error .malformed
      | .openArray :: .closeArray :: rest => do
          openEmpty dialect .array depth
          .ok (.array [], rest)
      | .openArray :: rest => do
          let depth ← deeper .array depth
          let (items, rest) ← readItems dialect fuel depth rest
          .ok (.array items, rest)
      | .openObject :: .closeObject :: rest => do
          openEmpty dialect .object depth
          .ok (.object [], rest)
      | .openObject :: rest => do
          let depth ← deeper .object depth
          let (members, rest) ← readMembers dialect fuel depth [] rest
          .ok (.object members, rest)
      | _ => .error .malformed

/-- Read the items of an array up to its end. -/
def readItems (dialect : Dialect) : (fuel : Nat) → (depth : Nat) → List Token →
    Except ReadError (List Json × List Token)
  | 0, _, _ => .error .malformed
  | fuel + 1, depth, toks => do
      let (item, rest) ← readValue dialect fuel depth toks
      match rest with
      | .comma :: rest => do
          let (items, rest) ← readItems dialect fuel depth rest
          .ok (item :: items, rest)
      | .closeArray :: rest => .ok ([item], rest)
      | _ => .error .malformed

/-- Read the members of an object up to its end, behind those already read. -/
def readMembers (dialect : Dialect) : (fuel : Nat) → (depth : Nat) → Members →
    List Token → Except ReadError (Members × List Token)
  | 0, _, _, _ => .error .malformed
  | fuel + 1, depth, members, toks =>
      match toks with
      | .text name :: .colon :: rest =>
          if isAccepted dialect name then do
            let (value, rest) ← readValue dialect fuel depth rest
            let members := Members.set members name value
            match rest with
            | .comma :: rest => readMembers dialect fuel depth members rest
            | .closeObject :: rest => .ok (members, rest)
            | _ => .error .malformed
          else .error .malformed
      | _ => .error .malformed

end

/-- Read a list of tokens as one document.  Every call takes a token or is the
first inside a container, so twice the number of tokens is fuel enough. -/
def readTokens (dialect : Dialect) (toks : List Token) : Except ReadError Json := do
  let (document, rest) ← readValue dialect (2 * toks.length + 2) dialect.maxDepth toks
  match rest with
  | [] => .ok document
  | _ => .error .malformed

/-- Read a text as one document. -/
def readLetters (dialect : Dialect) (letters : List Text.Letter) : Except ReadError Json :=
  readTokens dialect (tokens letters)

/-- Read characters as one document. -/
def read (dialect : Dialect) (chars : List Char) : Except ReadError Json :=
  readLetters dialect (chars.map .char)

end AffinityPool.Json
