/-
Module: AffinityPool.Http.ContentType
Purpose: Content types taken apart: the kind of content and the parameters.
Main exports:
  ContentType.kind, ContentType.Fault, ContentType.charset
-/
import AffinityPool.Http.Escape
import AffinityPool.Text.Ascii
import AffinityPool.Text.Blank
import AffinityPool.Text.Charset
import AffinityPool.Text.Integer

namespace AffinityPool.Http.ContentType

/-!
A content type is a kind and parameters, with semicolons between them.  A value
may stand in quotation marks, in which semicolons separate nothing.  It may also
be given in numbered parts, whose names end with an asterisk and a number, and a
name that ends with an asterisk marks a value with percent escapes.
-/

/-- What stands in front of the parameters. -/
def kind (text : List Char) : List Char := text.takeWhile (· ≠ ';')

/-- Cut a text at its semicolons outside of quotation marks.  A quotation mark
behind a backslash is no mark. -/
def cut : (quoted escaped : Bool) → List Char → List (List Char)
  | _, _, [] => [[]]
  | quoted, escaped, c :: rest =>
      if c = ';' && !quoted then [] :: cut false false rest
      else
        match cut (quoted != (c = '"' && !escaped)) (c = '\\') rest with
        | part :: others => (c :: part) :: others
        | [] => [[c]]

/-- A parameter as it is written. -/
structure Written where
  name : List Char
  value : List Char
deriving Repr, DecidableEq

/-- A part of a text without spacing around it. -/
def trimmed (chars : List Char) : List Char := Text.trimmed Text.isSpacing chars

/-- Read a parameter.  Letter case does not count in a name with a value. -/
def Written.ofChars (part : List Char) : Written :=
  let name := part.takeWhile (· ≠ '=')
  match part.drop name.length with
  | [] => ⟨trimmed part, []⟩
  | _ :: value => ⟨(trimmed name).map Char.toLower, trimmed value⟩

/-- Put one character in place of two, wherever the two stand together. -/
def replacePairs (first second other : Char) : List Char → List Char
  | a :: b :: rest =>
      if a = first ∧ b = second then other :: replacePairs first second other rest
      else a :: replacePairs first second other (b :: rest)
  | chars => chars

/-- A value without the marks around it. -/
def unquoted (value : List Char) : List Char :=
  match value with
  | '"' :: inner =>
      if inner.getLast? = some '"' then
        replacePairs '\\' '"' '"' (replacePairs '\\' '\\' '\\' inner.dropLast)
      else value
  | '<' :: inner => if inner.getLast? = some '>' then inner.dropLast else value
  | value => value

/-- A part of a parameter's value. -/
structure Part where
  number : Option (List Char)
  value : List Char
  /-- Whether the part is written with percent escapes. -/
  hasEscapes : Bool
deriving Repr, DecidableEq

/-- Whether a character may stand in front of the asterisk of a part. -/
def isNameChar (c : Char) : Bool := c.isAlphanum || c = '_'

/-- The name and the number that a name with an asterisk stands for. -/
def partName? (name : List Char) : Option (List Char × Option (List Char)) :=
  let word := name.takeWhile isNameChar
  match name.drop word.length with
  | '*' :: rest =>
      let number := rest.takeWhile Char.isDigit
      let behind := rest.drop number.length
      if word.isEmpty then none
      else if number.isEmpty then (if behind.isEmpty then some (word, none) else none)
      else if behind = [] ∨ behind = ['*'] then some (word, some number)
      else none
  | _ => none

/-- A parameter, whole or in parts. -/
inductive Parameter where
  | whole (name value : List Char)
  | part (name : List Char) (part : Part)
deriving Repr, DecidableEq

/-- A parameter from the way it is written. -/
def Parameter.ofWritten (written : Written) : Parameter :=
  let value := unquoted written.value
  match partName? written.name with
  | some (name, number) => .part name ⟨number, value, written.name.getLast? = some '*'⟩
  | none => .whole written.name value

/-- Why the parameters of a content type cannot be read. -/
inductive Fault where
  /-- A number of a part is too long. -/
  | longNumber (digits : Nat)
  /-- Some parts of a value are numbered and others are not. -/
  | mixedParts
deriving Repr, DecidableEq

/-- Whether characters stand in front of others or are the same, character by
character. -/
def precedes : List Char → List Char → Bool
  | [], _ => true
  | _ :: _, [] => false
  | a :: left, b :: right => a.toNat < b.toNat || (a.toNat = b.toNat && precedes left right)

/-- Whether a part stands in front of another one. -/
def Part.le (a b : Part) : Bool :=
  let number (part : Part) : Int := (part.number.bind Text.integer?).getD 0
  if number a ≠ number b then number a < number b
  else if a.value ≠ b.value then precedes a.value b.value
  else !a.hasEscapes || b.hasEscapes

/-- The text of a part.  An escape stands for the character of its octet. -/
def Part.text (part : Part) : List Char :=
  if part.hasEscapes then
    (Escape.unescapedOctets part.value).map fun octet => Char.ofNat octet.toNat
  else part.value

/-- A value in front of which a character set and a language are named, each ended
by an apostrophe: the name of the set, if both are there, and the value. -/
def splitLanguage (value : List Char) : List Char × List Char :=
  let charset := value.takeWhile (· ≠ '\'')
  let behind := (value.drop charset.length).drop 1
  match behind.dropWhile (· ≠ '\'') with
  | _ :: inner => (charset, inner)
  | [] => ([], value)

/-- A value whose octets are written in a character set; without a name that is
ASCII.  A value that is no text of the set stays as it is. -/
def decoded (charset value : List Char) : List Char :=
  let name := if charset.isEmpty then "ascii" else String.ofList charset
  match Text.Charset.decoder? name with
  | none => value
  | some decoder =>
      let (chars, decoder) := decoder.feed (value.map fun c => UInt8.ofNat c.toNat)
      let (rest, decoder) := decoder.finish
      let text := chars ++ rest
      if decoder.refusal?.isSome || text.contains Text.Utf8.replacement then value else text

/-- The value that parts make together. -/
def assembled (parts : List Part) : Except Fault (List Char) :=
  if parts.any (·.number.isSome) && parts.any (·.number.isNone) then .error .mixedParts
  else
    let value := (parts.mergeSort Part.le).flatMap Part.text
    let (charset, inner) := splitLanguage value
    .ok (if parts.any (·.hasEscapes) then decoded charset inner else value)

/-- The names of parameters in parts, in the order of their first parts. -/
def partNames : List Parameter → List (List Char)
  | [] => []
  | .part name _ :: rest => name :: (partNames rest).filter (· ≠ name)
  | .whole .. :: rest => partNames rest

/-- The parts of a parameter. -/
def partsOf (name : List Char) (parameters : List Parameter) : List Part :=
  parameters.filterMap fun parameter =>
    match parameter with
    | .part owner part => if owner = name then some part else none
    | .whole .. => none

/-- The length of the first number that is too long to be read. -/
def longNumber? (parameters : List Parameter) : Option Nat :=
  parameters.findSome? fun parameter =>
    match parameter with
    | .part _ ⟨some number, _, _⟩ =>
        if Text.maxIntegerDigits < number.length then some number.length else none
    | _ => none

/-- The values of all parameters by name: first those that are whole. -/
def values (parameters : List Parameter) : Except Fault (List (List Char × List Char)) := do
  if let some digits := longNumber? parameters then throw (.longNumber digits)
  let assembled ← (partNames parameters).mapM fun name => do
    let value ← assembled (partsOf name parameters)
    .ok (name, value)
  let whole := parameters.filterMap fun parameter =>
    match parameter with
    | .whole name value => some (name, value)
    | .part .. => none
  .ok (whole ++ assembled)

/-- The character set that a content type names.  The first place to look for it
is in front of the parameters, and a name that is not ASCII counts as none. -/
def charset (contentType : String) : Except Fault (Option String) := do
  match (cut false false contentType.toList).map Written.ofChars with
  | [] => .ok none
  | first :: rest =>
      let values ← values (rest.map .ofWritten)
      let value? := ((first.name, unquoted first.value) :: values).find? fun entry =>
        entry.1.map Char.toLower = "charset".toList
      .ok <| value?.bind fun entry =>
        if entry.2.all Text.isAscii then some (String.ofList entry.2) else none

end AffinityPool.Http.ContentType
