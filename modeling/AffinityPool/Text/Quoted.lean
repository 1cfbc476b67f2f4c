/-
Module: AffinityPool.Text.Quoted
Purpose: Texts shown between quotation marks inside messages.
Main exports:
  quoteMark, quoted
-/
import AffinityPool.Text.Printable

namespace AffinityPool.Text

/-- The mark around a quoted text: an apostrophe, unless the text holds one and
holds no double quotation mark. -/
def quoteMark (text : List Char) : Char :=
  if text.contains '\'' && !text.contains '"' then '"' else '\''

/-- A number in lower-case hexadecimal, filled up with zeros to a width. -/
def hexPadded (width n : Nat) : List Char :=
  let digits := Nat.toDigits 16 n
  List.replicate (width - digits.length) '0' ++ digits

/-- One character of a quoted text.  The mark itself and the backslash are
escaped, the three common controls have short names, and every other
unprintable character is written by its code point. -/
def quotedChar (mark c : Char) : List Char :=
  if c = mark || c = '\\' then ['\\', c]
  else if c = '\n' then ['\\', 'n']
  else if c = '\r' then ['\\', 'r']
  else if c = '\t' then ['\\', 't']
  else if isPrintable c then [c]
  else if c.toNat < 0x100 then '\\' :: 'x' :: hexPadded 2 c.toNat
  else if c.toNat < 0x10000 then '\\' :: 'u' :: hexPadded 4 c.toNat
  else '\\' :: 'U' :: hexPadded 8 c.toNat

/-- A text between quotation marks, with unprintable characters escaped. -/
def quoted (text : String) : String :=
  let mark := quoteMark text.toList
  String.ofList (mark :: text.toList.flatMap (quotedChar mark) ++ [mark])

end AffinityPool.Text
