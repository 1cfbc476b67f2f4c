/-
Module: AffinityPool.Text.Blank
Purpose: Blank characters, and texts without them at their ends.
Main exports:
  isBlank, isSpacing, trimmed
-/

namespace AffinityPool.Text

/-- Whether a character is blank by its Unicode property. -/
def isBlank (c : Char) : Bool :=
  let n := c.toNat
  (0x09 ≤ n && n ≤ 0x0D) || n = 0x20 || n = 0x85 || n = 0xA0 || n = 0x1680 ||
    (0x2000 ≤ n && n ≤ 0x200A) || n = 0x2028 || n = 0x2029 || n = 0x202F || n = 0x205F ||
    n = 0x3000

/-- Whether a character is blank or one of the four separators among the
controls. -/
def isSpacing (c : Char) : Bool := isBlank c || (0x1C ≤ c.toNat && c.toNat ≤ 0x1F)

/-- A text without the characters of a kind at its ends. -/
def trimmed (isEdge : Char → Bool) (chars : List Char) : List Char :=
  ((chars.dropWhile isEdge).reverse.dropWhile isEdge).reverse

end AffinityPool.Text
