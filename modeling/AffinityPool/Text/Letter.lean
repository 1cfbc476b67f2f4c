/-
Module: AffinityPool.Text.Letter
Purpose: Texts in which half of a surrogate pair may stand without the other.
Main exports:
  Letter, LooseText, LooseText.ofString, LooseText.toString, LooseText.isWhole, LooseText.quoted
-/
import AffinityPool.Text.Quoted

namespace AffinityPool.Text

/-!
Some formats can write half of a surrogate pair alone.  Such a half is no
character, so a text that may hold one is a list of letters, each a character or
a half.  A text without halves is a `String` in another form.
-/

/-- A character, or half of a surrogate pair. -/
inductive Letter where
  | char (c : Char)
  | half (unit : Nat)
deriving Repr, DecidableEq, Inhabited

namespace Letter

/-- The character a letter is, if it is one. -/
def char? : Letter → Option Char
  | char c => some c
  | half _ => none

/-- Whether a code unit is half of a surrogate pair. -/
def isHalf (unit : Nat) : Bool := 0xD800 ≤ unit && unit < 0xE000

/-- Whether two code units make a pair. -/
def arePair (high low : Nat) : Bool :=
  0xD800 ≤ high && high < 0xDC00 && 0xDC00 ≤ low && low < 0xE000

/-- The character that a pair stands for. -/
def pairChar (high low : Nat) : Char :=
  Char.ofNat (0x10000 + (high - 0xD800) * 0x400 + (low - 0xDC00))

/-- The letter of a code unit that stands alone. -/
def ofUnit (unit : Nat) : Letter := if isHalf unit then half unit else char (Char.ofNat unit)

/-- The character shown for a letter where only characters can be shown. -/
def shown : Letter → Char
  | char c => c
  | half _ => '\uFFFD'

/-- A letter inside quotation marks.  A half is written by its code unit. -/
def quoted (mark : Char) : Letter → List Char
  | char c => quotedChar mark c
  | half unit => '\\' :: 'u' :: hexPadded 4 unit

end Letter

/-- A text in which halves may stand alone. -/
structure LooseText where
  letters : List Letter
deriving Repr, DecidableEq, Inhabited

namespace LooseText

/-- Characters as a text. -/
def ofChars (chars : List Char) : LooseText := ⟨chars.map .char⟩

/-- A string as a text. -/
def ofString (text : String) : LooseText := ofChars text.toList

instance : Coe String LooseText := ⟨ofString⟩

/-- The characters of a text, with the replacement character for every half. -/
def toString (text : LooseText) : String := String.ofList (text.letters.map Letter.shown)

/-- Whether a text holds no half. -/
def isWhole (text : LooseText) : Bool := text.letters.all fun letter => letter.char?.isSome

/-- Whether a text holds nothing. -/
def isEmpty (text : LooseText) : Bool := text.letters.isEmpty

/-- A text between quotation marks, with halves and unprintable characters
escaped. -/
def quoted (text : LooseText) : String :=
  let mark := quoteMark (text.letters.filterMap Letter.char?)
  String.ofList (mark :: text.letters.flatMap (Letter.quoted mark) ++ [mark])

/-- A string comes back from the text it became. -/
theorem toString_ofString (text : String) : (ofString text).toString = text := by
  have : Letter.shown ∘ Letter.char = id := rfl
  simp [ofString, ofChars, toString, this, String.ofList_toList]

/-- A text of characters holds no half. -/
theorem isWhole_ofChars (chars : List Char) : (ofChars chars).isWhole = true := by
  simp [ofChars, isWhole, Letter.char?]

end LooseText

end AffinityPool.Text
