/-
Module: AffinityPool.Proofs.KeyPath.NormalForm
Purpose: One spelling for every path that can be read: names between dots, positions in brackets.
Main exports:
  KeyPath.normal, KeyPath.sound_of_parse, KeyPath.Normalised, KeyPath.normalised
-/
import AffinityPool.Proofs.KeyPath.Spelling

namespace AffinityPool.KeyPath

/-!
Segments that were read can be written again, each position in brackets, and what is written is
read as the same segments.  The one thing to see is that a reader never makes a name of digits but
in front of brackets, so a position follows it, and the brackets of that position keep the name
from being read as a position itself.
-/

/-- A segment in its normal spelling. -/
def Spelled.normal : Segment → Spelled
  | .field text => .name text
  | .index position => .bracketed position

/-- A path in its normal spelling: a dot in front of every name but a first one, and every position
in brackets. -/
def normal (segments : KeyPath) : String := spelling (segments.map Spelled.normal)

variable {path : String} {segments : KeyPath}

/-- Positions in brackets are heard as positions. -/
theorem heard_normal (segments : KeyPath) : heard (segments.map Spelled.normal) = segments := by
  induction segments with
  | nil => rfl
  | cons segment segments ih =>
      rw [List.map_cons, heard, ih]
      cases segment <;> rfl

/-! ### What a reader makes can be written -/

theorem startsBracketed_append {before : List Spelled} (brackets : startsBracketed before = true)
    (after : List Spelled) : startsBracketed (before ++ after) = true := by
  cases before with
  | nil => cases brackets
  | cons first rest => exact brackets

theorem Sound.append {before after : List Spelled} (one : Sound before) (two : Sound after) :
    Sound (before ++ after) := by
  induction before with
  | nil => exact two
  | cons first rest ih =>
      obtain ⟨plain, digits, sound⟩ := one
      exact ⟨plain, fun named => startsBracketed_append (digits named) after, ih sound⟩

theorem Sound.of_append {before after : List Spelled} (sound : Sound (before ++ after)) :
    Sound after := by
  induction before with
  | nil => exact sound
  | cons first rest ih => exact ih sound.2.2

/-- Positions that were read can be written in brackets. -/
theorem sound_positions (numerals : List Numeral) :
    Sound (((numerals.map Numeral.value).map Segment.index).map Spelled.normal) := by
  induction numerals with
  | nil => trivial
  | cons numeral numerals ih =>
      exact ⟨numeral.short_value, fun digits => absurd digits Bool.false_ne_true, ih⟩

/-- A name made of a word's characters can be written, if it is not empty. -/
theorem Word.plain_name (word : Word) (filled : word.chars ≠ []) :
    (Spelled.name (String.ofList word.chars)).Plain := by
  refine ⟨by simpa [← String.toList_inj] using filled, ?_⟩
  rw [String.toList_ofList]
  exact word.plain

/-- The segments of a piece can be written: a name of digits comes with positions. -/
theorem Piece.sound (piece : Piece) : Sound (piece.segments.map Spelled.normal) := by
  cases piece with
  | number numeral => exact sound_positions [numeral]
  | name word worded =>
      have filled : word.chars ≠ [] := (Piece.name word worded).chars_ne_nil
      refine ⟨word.plain_name filled, fun digits => ?_, trivial⟩
      have all : word.chars.all Text.isDigit = true := by
        simpa [Spelled.normal, Spelled.isDigits] using digits
      rw [worded] at all
      cases all
  | groups front numerals nonempty fed =>
      have positions := sound_positions numerals
      rw [Piece.segments, List.map_append]
      by_cases filled : front.chars = []
      · rw [filled]
        exact positions
      · obtain ⟨numeral, rest, rfl⟩ := List.exists_cons_of_ne_nil nonempty
        rw [namedSegment_of_ne_nil _ filled]
        exact ⟨front.plain_name filled, fun _ => rfl, positions⟩

/-- What was read can be written, and there is something to write. -/
theorem sound_of_parse (read : parse path = .ok segments) :
    segments ≠ [] ∧ Sound (segments.map Spelled.normal) := by
  obtain ⟨written, spells, rfl⟩ := parse_eq_ok_iff.mp read
  constructor
  · obtain ⟨piece, rest, rfl⟩ := List.exists_cons_of_ne_nil spells.nonempty
    have filled : piece.segments ≠ [] := by
      cases piece with
      | number | name => simp [Piece.segments]
      | groups front numerals nonempty fed => simp [Piece.segments, nonempty]
    simp [filled]
  · clear spells read
    induction written with
    | nil => trivial
    | cons piece written ih =>
        rw [List.flatMap_cons, List.map_append]
        exact piece.sound.append ih

/-! ### The normal form -/

/-- What segments that were read are like. -/
structure Normalised (segments : KeyPath) : Prop where
  /-- Their normal spelling is read as the same segments. -/
  stable : parse (normal segments) = .ok segments
  nonempty : segments ≠ []
  names : ∀ name, .field name ∈ segments →
    name ≠ "" ∧ ∀ c ∈ name.toList, c ≠ '.' ∧ c ≠ '[' ∧ c ≠ ']'
  /-- A position follows every name of digits. -/
  digits : ∀ before name after, segments = before ++ .field name :: after →
    (∀ c ∈ name.toList, Text.isDigit c = true) → ∃ position rest, after = .index position :: rest

/-- Every path that can be read has a normal spelling, which is read in the same way. -/
theorem normalised (read : parse path = .ok segments) : Normalised segments := by
  obtain ⟨nonempty, sound⟩ := sound_of_parse read
  have suffix : ∀ before name after, segments = before ++ .field name :: after →
      Sound ((Segment.field name :: after).map Spelled.normal) := by
    rintro before name after rfl
    rw [List.map_append] at sound
    exact sound.of_append
  constructor
  · rw [normal, parse_spelling (by simpa using nonempty) sound, heard_normal]
  · exact nonempty
  · intro name member
    obtain ⟨before, after, split⟩ := List.append_of_mem member
    obtain ⟨⟨filled, plain⟩, -⟩ := suffix before name after split
    refine ⟨filled, fun c inside => ?_⟩
    simpa [isBracket] using plain c inside
  · intro before name after split all
    obtain ⟨-, digits, -⟩ := suffix before name after split
    have brackets := digits (List.all_eq_true.mpr all)
    cases after with
    | nil => cases brackets
    | cons segment rest =>
        cases segment with
        | field text => cases brackets
        | index position => exact ⟨position, rest, rfl⟩

/-- A name of digits in front of brackets, digits of another script, and a line feed that is passed
over: the normal spelling has none of the last two. -/
theorem normalised_digits :
    parse "7[٣].004.id[2]\n" = .ok [.field "7", .index 3, .index 4, .field "id", .index 2] ∧
      normal [.field "7", .index 3, .index 4, .field "id", .index 2] = "7[3][4].id[2]" ∧
      Normalised [.field "7", .index 3, .index 4, .field "id", .index 2] :=
  ⟨rfl, rfl, normalised (show parse "7[٣].004.id[2]\n" = .ok _ from rfl)⟩

end AffinityPool.KeyPath
