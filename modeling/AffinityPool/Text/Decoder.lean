/-
Module: AffinityPool.Text.Decoder
Purpose: Octets as characters of any character set, piece by piece.
Main exports:
  WideForm, Refusal, Refusal.message, Decoder, Decoder.step, Decoder.feed, Decoder.finish,
  Decoder.refusal?
-/
import AffinityPool.Text.CodePage
import AffinityPool.Text.Encoding
import AffinityPool.Text.Escaped
import AffinityPool.Text.Switched
import AffinityPool.Text.Utf7

namespace AffinityPool.Text

/-!
A decoder is a machine that takes one octet at a time, so a cut between two pieces
leaves no trace.  Octets without a character are replaced.  A decoder refuses wide text
which has to start with a byte order mark and does not, and some names of codings
stand for decoders that refuse everything.  After a refusal no characters come.
-/

/-- The two forms of text with wide units. -/
inductive WideForm where
  /-- Units of two octets. -/
  | utf16
  /-- Units of four octets. -/
  | utf32
deriving Repr, DecidableEq

/-- The name of a form inside texts. -/
def WideForm.shown : WideForm → String
  | .utf16 => "UTF-16"
  | .utf32 => "UTF-32"

/-- Why a decoder refuses to read. -/
inductive Refusal where
  /-- The text does not start with the byte order mark that it needs. -/
  | unmarked (form : WideForm)
  /-- The coding makes octets of octets. -/
  | octetsOnly
  /-- The coding makes characters of characters. -/
  | charactersOnly
  /-- The coding replaces nothing. -/
  | strictOnly
  /-- The coding is there to be refused. -/
  | undefined
deriving Repr, DecidableEq

/-- The text of a refusal. -/
def Refusal.message : Refusal → String
  | .unmarked form =>
      let form := form.shown
      s!"{form} stream does not start with BOM"
  | .octetsOnly => ""
  | .charactersOnly => "the coding does not apply to octets"
  | .strictOnly => "Unsupported error handling replace"
  | .undefined => "undefined encoding"

/-- A machine that reads text, in the state it is in. -/
inductive Decoder where
  | utf8 (state : Utf8.State)
  /-- UTF-8 text at its start, where a byte order mark would be dropped, with what
  there is of the mark. -/
  | utf8Marked (held : List UInt8)
  | utf7 (state : Utf7.State)
  | page (page : CodePage)
  /-- Text of one octet or several for each character, with the octets of what is
  not yet a character. -/
  | eastAsian (set : EastAsian) (held : List UInt8)
  /-- Text with escapes, with the octets of what is not yet a character. -/
  | switched (set : Switched) (held : List UInt8)
  /-- Text with backslashes, with the octets of what is not yet a character. -/
  | escaped (kind : Escaped) (held : List UInt8)
  /-- Wide text with the octets of what is not yet a character.  Without an order
  the text is at its start, where a byte order mark must stand. -/
  | wide (form : WideForm) (order : Option Endian) (held : List UInt8)
  /-- The first octet, or the end, will be refused. -/
  | refusing (refusal : Refusal)
  | refused (refusal : Refusal)
deriving Repr, DecidableEq

namespace Decoder

open Encoding (pairValue units32?)

/-- The byte order mark of UTF-8. -/
def utf8Mark : List UInt8 := [0xEF, 0xBB, 0xBF]

/-- Read one octet at the start of UTF-8 text that may have a mark. -/
def stepMark (held : List UInt8) (octet : UInt8) : List Char × Decoder :=
  let held := held ++ [octet]
  if held = utf8Mark then ([], .utf8 .between)
  else if held.isPrefixOf utf8Mark then ([], .utf8Marked held)
  else
    let (chars, state) := Utf8.feed .between held
    (chars, .utf8 state)

/-- The character of a code point, or the one that replaces it. -/
def charOf (value : Nat) : Char :=
  if value < 0x110000 ∧ Letter.isHalf value = false then Char.ofNat value else Utf8.replacement

/-- Whether a unit is the first half of a pair. -/
def isHighHalf (unit : Nat) : Bool := 0xD800 ≤ unit && unit < 0xDC00

/-- Read a unit of two octets.  A first half waits for the second one. -/
def unit16 (order : Endian) (a b : UInt8) : List Char × List UInt8 :=
  let unit := pairValue order a b
  if isHighHalf unit then ([], [a, b]) else ([charOf unit], [])

/-- The characters that held octets make, and the octets that are still held. -/
def units16 (order : Endian) : List UInt8 → List Char × List UInt8
  | [a, b] => unit16 order a b
  | [a, b, c, d] =>
      let high := pairValue order a b
      let low := pairValue order c d
      if Letter.arePair high low then ([Letter.pairChar high low], [])
      else
        let (chars, held) := unit16 order c d
        (Utf8.replacement :: chars, held)
  | held => ([], held)

/-- The characters that held octets make, and the octets that are still held. -/
def units32 (order : Endian) (held : List UInt8) : List Char × List UInt8 :=
  match units32? order held with
  | some [unit] => ([charOf unit], [])
  | _ => ([], held)

/-- The order of a byte order mark of a form. -/
def markOf? (form : WideForm) (held : List UInt8) : Option Endian :=
  match form, held with
  | .utf16, [0xFE, 0xFF] => some .big
  | .utf16, [0xFF, 0xFE] => some .little
  | .utf32, [0x00, 0x00, 0xFE, 0xFF] => some .big
  | .utf32, [0xFF, 0xFE, 0x00, 0x00] => some .little
  | _, _ => none

/-- Read what is held of wide text. -/
def units (form : WideForm) (order : Endian) (held : List UInt8) : List Char × List UInt8 :=
  match form with
  | .utf16 => units16 order held
  | .utf32 => units32 order held

/-- Read one octet of wide text.  Without a mark, text is refused as soon as it
shows a character, for which the lower octet counts as the first one. -/
def stepWide (form : WideForm) (order : Option Endian) (held : List UInt8) (octet : UInt8) :
    List Char × Decoder :=
  let held := held ++ [octet]
  match order with
  | some order =>
      let (chars, held) := units form order held
      (chars, .wide form (some order) held)
  | none =>
      match markOf? form held with
      | some order => ([], .wide form (some order) [])
      | none =>
          if (units form .little held).1.isEmpty then ([], .wide form none held)
          else ([], .refused (.unmarked form))

/-- Read one octet. -/
def step (decoder : Decoder) (octet : UInt8) : List Char × Decoder :=
  match decoder with
  | utf8 state =>
      let (chars, state) := Utf8.feed state [octet]
      (chars, utf8 state)
  | utf8Marked held => stepMark held octet
  | utf7 state =>
      let (chars, state) := Utf7.step state octet
      (chars, utf7 state)
  | page table => ([table.char octet], page table)
  | eastAsian set held =>
      let (chars, held) := set.settle (held ++ [octet])
      (chars, eastAsian set held)
  | switched set held =>
      let (chars, set, held) := set.settle (held ++ [octet])
      (chars, switched set held)
  | escaped kind held =>
      let (chars, held) := kind.settle (held ++ [octet])
      (chars, escaped kind held)
  | wide form order held => stepWide form order held octet
  | refusing refusal => ([], refused refusal)
  | refused refusal => ([], refused refusal)

/-- Read a further piece. -/
def feed : Decoder → List UInt8 → List Char × Decoder
  | decoder, [] => ([], decoder)
  | decoder, octet :: rest =>
      let (first, next) := decoder.step octet
      let (chars, last) := feed next rest
      (first ++ chars, last)

/-- Decoding in two pieces is decoding at once, wherever the cut is. -/
theorem feed_append (decoder : Decoder) (first second : List UInt8) :
    decoder.feed (first ++ second) =
      ((decoder.feed first).1 ++ ((decoder.feed first).2.feed second).1,
        ((decoder.feed first).2.feed second).2) := by
  induction first generalizing decoder with
  | nil => simp [feed]
  | cons octet rest ih => simp [feed, ih]

/-- Decoding UTF-8 octet by octet is decoding it at once. -/
theorem feed_utf8 (state : Utf8.State) (octets : List UInt8) :
    (utf8 state).feed octets =
      ((Utf8.feed state octets).1, utf8 (Utf8.feed state octets).2) := by
  induction octets generalizing state with
  | nil => simp [feed, Utf8.feed]
  | cons octet rest ih =>
      have cut := Utf8.feed_append state [octet] rest
      simp only [List.singleton_append] at cut
      simp [feed, step, ih, cut]

/-- What is left when no further piece comes, and the decoder behind it. -/
def finish (decoder : Decoder) : List Char × Decoder :=
  match decoder with
  | utf8 state => (Utf8.flush state, decoder)
  | utf7 state => (Utf7.flush state, decoder)
  | wide form order held =>
      if held.isEmpty then ([], decoder)
      else if order.isNone ∧ form = .utf16 ∧ 2 ≤ held.length then
        ([], refused (.unmarked form))
      else ([Utf8.replacement], decoder)
  | escaped kind held => (kind.finish held, decoder)
  | eastAsian _ held | switched _ held =>
      (if held.isEmpty then [] else [Utf8.replacement], decoder)
  | refusing refusal => ([], refused refusal)
  | decoder => ([], decoder)

/-- Why the text is refused, if it is. -/
def refusal? : Decoder → Option Refusal
  | refused refusal => some refusal
  | _ => none

end Decoder

end AffinityPool.Text
