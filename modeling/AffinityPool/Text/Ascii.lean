/-
Module: AffinityPool.Text.Ascii
Purpose: Texts that must be written in ASCII, and what stands in the way.
Main exports:
  isAscii, Unwritable, firstUnwritable?, Unwritable.message
-/
import AffinityPool.Text.Quoted

namespace AffinityPool.Text

/-- Whether a character is one of ASCII. -/
def isAscii (c : Char) : Bool := c.toNat < 0x80

/-- Characters side by side that ASCII does not have, with the position of the
first one. -/
structure Unwritable where
  first : Char
  others : List Char
  position : Nat
deriving Repr, DecidableEq

/-- The first characters of a text that ASCII does not have. -/
def firstUnwritable? (text : String) : Option Unwritable :=
  let before := text.toList.takeWhile isAscii
  match text.toList.dropWhile isAscii with
  | first :: rest => some ⟨first, rest.takeWhile (!isAscii ·), before.length⟩
  | [] => none

/-- A character by its code point. -/
def codeShown (c : Char) : List Char :=
  if c.toNat < 0x100 then '\\' :: 'x' :: hexPadded 2 c.toNat
  else if c.toNat < 0x10000 then '\\' :: 'u' :: hexPadded 4 c.toNat
  else '\\' :: 'U' :: hexPadded 8 c.toNat

/-- The text of what stands in the way. -/
def Unwritable.message (run : Unwritable) : String :=
  let start := run.position
  let stop := run.position + run.others.length
  let subject :=
    if run.others.isEmpty then
      let shown := String.ofList (codeShown run.first)
      s!"character '{shown}' in position {start}"
    else s!"characters in position {start}-{stop}"
  s!"'ascii' codec can't encode {subject}: ordinal not in range(128)"

/-- A text with nothing in the way is all ASCII. -/
theorem firstUnwritable?_eq_none {text : String} :
    firstUnwritable? text = none ↔ ∀ c ∈ text.toList, isAscii c = true := by
  simp only [firstUnwritable?]
  generalize text.toList = chars
  induction chars with
  | nil => simp
  | cons c rest ih =>
      by_cases plain : isAscii c = true
      · simp only [List.dropWhile_cons, plain, if_true, List.mem_cons, forall_eq_or_imp, true_and]
        rw [← ih]
        split <;> simp_all
      · simp [plain]

end AffinityPool.Text
