/-
Module: AffinityPool.Json.Writer
Purpose: The compact text of a document.
Main exports:
  Json.write
-/
import AffinityPool.Json.Basic

namespace AffinityPool.Json

/-- One character of a written text.  Quotation marks, backslashes and control
characters are escaped; everything else stands for itself. -/
def writtenChar (c : Char) : List Char :=
  if c = '"' || c = '\\' then ['\\', c]
  else if c = '\n' then ['\\', 'n']
  else if c = '\r' then ['\\', 'r']
  else if c = '\t' then ['\\', 't']
  else if c.toNat < 0x20 then '\\' :: 'u' :: Text.hexPadded 4 c.toNat
  else [c]

/-- One letter of a written text.  A half is escaped. -/
def writtenLetter : Text.Letter → List Char
  | .char c => writtenChar c
  | .half unit => '\\' :: 'u' :: Text.hexPadded 4 unit

/-- A text between quotation marks. -/
def writtenText (value : Text.LooseText) : String :=
  String.ofList ('"' :: value.letters.flatMap writtenLetter ++ ['"'])

/-- A double; the three values outside the decimal notation have names. -/
def writtenFloat : Binary64 → String
  | .nan => "NaN"
  | .infinite negative => if negative then "-Infinity" else "Infinity"
  | x => x.text

mutual

/-- The text of a document, without blanks. -/
def write : Json → String
  | .null => "null"
  | .bool value => if value then "true" else "false"
  | .int value => toString value
  | .float value => writtenFloat value
  | .text value => writtenText value
  | .array items => "[" ++ String.intercalate "," (writeItems items) ++ "]"
  | .object members => "\x7b" ++ String.intercalate "," (writeMembers members) ++ "\x7d"

/-- The texts of the items of an array. -/
def writeItems : List Json → List String
  | [] => []
  | item :: rest => write item :: writeItems rest

/-- The texts of the members of an object. -/
def writeMembers : Members → List String
  | [] => []
  | (name, value) :: rest => (writtenText name ++ ":" ++ write value) :: writeMembers rest

end

end AffinityPool.Json
