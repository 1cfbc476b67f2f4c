/-
Module: AffinityPool.Http.Escape
Purpose: Percent escapes, and the characters that need none.
Main exports:
  Escape.isPathSafe, Escape.isQuerySafe, Escape.isFragmentSafe, Escape.isUserSafe,
  Escape.isHostSafe, Escape.escaped, Escape.unescaped
-/
import AffinityPool.Text.Quoted
import AffinityPool.Text.Utf8

namespace AffinityPool.Http.Escape

/-- Letters, digits and marks that stand for themselves everywhere. -/
def isUnreserved (c : Char) : Bool := c.isAlphanum || "-._~".toList.contains c

/-- Marks that separate parts of a part. -/
def subDelimiters : List Char := "!$&'()*+,;=".toList

/-- Whether a character is visible ASCII and not one of some exceptions. -/
def isVisibleExcept (exceptions : List Char) (c : Char) : Bool :=
  0x20 < c.toNat && c.toNat < 0x7F && !exceptions.contains c

/-- What may not stand in a path. -/
def pathExceptions : List Char := ['"', '#', '<', '>', '?', '\x60', '\x7b', '\x7d']

/-- What may stand in a path. -/
def isPathSafe : Char → Bool := isVisibleExcept pathExceptions

/-- What may stand in a query. -/
def isQuerySafe : Char → Bool := isVisibleExcept ['"', '#', '<', '>']

/-- What may stand in a fragment. -/
def isFragmentSafe : Char → Bool := isVisibleExcept ['"', '<', '>', '\x60']

/-- What may stand in front of a host. -/
def isUserSafe : Char → Bool :=
  isVisibleExcept (pathExceptions ++ ['/', ';', '=', '@', '[', '\\', ']', '^', '|'])

/-- What may stand in a host. -/
def isHostSafe (c : Char) : Bool :=
  subDelimiters.contains c || ['"', '\x60', '\x7b', '\x7d', '%', '|', '\\'].contains c

/-- The value of a hexadecimal digit. -/
def hexValue? (c : Char) : Option Nat :=
  if '0' ≤ c ∧ c ≤ '9' then some (c.toNat - '0'.toNat)
  else if 'a' ≤ c ∧ c ≤ 'f' then some (c.toNat - 'a'.toNat + 10)
  else if 'A' ≤ c ∧ c ≤ 'F' then some (c.toNat - 'A'.toNat + 10)
  else none

/-- The octet that two hexadecimal digits write. -/
def octet? (high low : Char) : Option UInt8 := do
  let high ← hexValue? high
  let low ← hexValue? low
  some (UInt8.ofNat (high * 16 + low))

/-- A character as percent escapes. -/
def escapedChar (c : Char) : List Char :=
  (String.singleton c).toUTF8.toList.flatMap fun octet =>
    '%' :: (Text.hexPadded 2 octet.toNat).map Char.toUpper

/-- A character as it stands in a part. -/
def written (safe : Char → Bool) (c : Char) : List Char :=
  if isUnreserved c || safe c then [c] else escapedChar c

/-- Escape what may not stand in a part.  Escapes that are there stay. -/
def escaped (safe : Char → Bool) : List Char → List Char
  | '%' :: a :: b :: rest =>
      if (octet? a b).isSome then '%' :: a :: b :: escaped safe rest
      else written safe '%' ++ escaped safe (a :: b :: rest)
  | c :: rest => written safe c ++ escaped safe rest
  | [] => []

/-- The octets of a text, with those that are escaped in place of their
escapes. -/
def unescapedOctets : List Char → List UInt8
  | '%' :: a :: b :: rest =>
      match octet? a b with
      | some octet => octet :: unescapedOctets rest
      | none => 0x25 :: unescapedOctets (a :: b :: rest)
  | c :: rest => (String.singleton c).toUTF8.toList ++ unescapedOctets rest
  | [] => []

/-- A text without escapes.  Octets that are no text are replaced. -/
def unescaped (chars : List Char) : List Char :=
  let (decoded, state) := Text.Utf8.feed .between (unescapedOctets chars)
  decoded ++ Text.Utf8.flush state

end AffinityPool.Http.Escape
