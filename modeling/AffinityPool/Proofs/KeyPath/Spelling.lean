/-
Module: AffinityPool.Proofs.KeyPath.Spelling
Purpose: The spellings of a path, with each position behind a dot or in brackets, and what is read
  from each of them.
Main exports:
  KeyPath.Spelled, KeyPath.spelling, KeyPath.heard, KeyPath.Sound, KeyPath.parse_spelling,
  KeyPath.Adjoining, KeyPath.Interchangeable, KeyPath.interchangeable
-/
import AffinityPool.KeyPath.Resolve
import AffinityPool.Proofs.KeyPath.Grammar

namespace AffinityPool.KeyPath

/-!
A position can be written behind a dot or in brackets, and both are read as the same position,
with one exception: what stands in front of brackets is taken for a name, also if it is the
digits of a position behind a dot.  So `rows[0][1]`, `rows[0].1` and `rows.0.1` are one path, and
`rows.0[1]` is another one, with a field named `0`.
-/

/-- A segment with the way in which it is written. -/
inductive Spelled where
  /-- A name, behind a dot unless it comes first. -/
  | name (name : String)
  /-- A position on its own, behind a dot unless it comes first. -/
  | dotted (position : Nat)
  /-- A position in brackets, directly behind what comes before. -/
  | bracketed (position : Nat)
deriving Repr, DecidableEq

namespace Spelled

/-- The segment that is written. -/
def segment : Spelled → Segment
  | .name text => .field text
  | .dotted position | .bracketed position => .index position

/-- Whether a segment is in brackets. -/
def isBracketed : Spelled → Bool
  | .bracketed _ => true
  | _ => false

/-- Whether a segment is a name of digits. -/
def isDigits : Spelled → Bool
  | .name text => text.toList.all Text.isDigit
  | _ => false

/-- The characters of a segment. -/
def chars : Spelled → List Char
  | .name text => text.toList
  | .dotted position => Nat.toDigits 10 position
  | .bracketed position => inBrackets (Nat.toDigits 10 position)

/-- The characters behind other segments. -/
def further (spelled : Spelled) : List Char :=
  if spelled.isBracketed then spelled.chars else '.' :: spelled.chars

/-- What a reader makes of a segment: a position on its own that has brackets directly behind it is
taken for a name. -/
def heard (bracketsBehind : Bool) : Spelled → Segment
  | .dotted position => if bracketsBehind then .field (Nat.repr position) else .index position
  | spelled => spelled.segment

/-- What a segment needs by itself: a name is not empty and has no dots and brackets, and a position
is not too long. -/
def Plain : Spelled → Prop
  | .name text => text ≠ "" ∧ ∀ c ∈ text.toList, c ≠ '.' ∧ isBracket c = false
  | .dotted position | .bracketed position =>
      (Nat.toDigits 10 position).length ≤ Text.maxIntegerDigits

-- The characters of the name are tested one by one, not all characters there are.
instance : DecidablePred Plain
  | .name _ => @instDecidableAnd _ _ _ (List.decidableBAll _ _)
  | .dotted position | .bracketed position =>
      inferInstanceAs (Decidable ((Nat.toDigits 10 position).length ≤ Text.maxIntegerDigits))

end Spelled

/-- The text that spelled segments make. -/
def spelling : List Spelled → String
  | [] => ""
  | first :: rest => String.ofList (first.chars ++ rest.flatMap Spelled.further)

/-- Whether brackets come first. -/
def startsBracketed : List Spelled → Bool
  | [] => false
  | first :: _ => first.isBracketed

/-- What a reader makes of spelled segments. -/
def heard : List Spelled → KeyPath
  | [] => []
  | first :: rest => first.heard (startsBracketed rest) :: heard rest

/-- Segments that can be written one after the other: a name of digits needs brackets behind it. -/
def Sound : List Spelled → Prop
  | [] => True
  | first :: rest =>
      first.Plain ∧ (first.isDigits = true → startsBracketed rest = true) ∧ Sound rest

/-! ### Spelled segments as pieces -/

variable {spelled other : List Spelled}

/-- How positions are written in brackets one after the other, and what they say. -/
theorem exists_groups_piece (front : Word) {lead : List Numeral} (nonempty : lead ≠ []) :
    ∃ piece : Piece,
      piece.chars = front.chars ++ (lead.map Numeral.digits).flatMap inBrackets ∧
        piece.segments = namedSegment front.chars ++ (lead.map Numeral.value).map .index :=
  ⟨.groups front lead nonempty false, by simp [Piece.chars, feed], rfl⟩

theorem namedSegment_of_ne_nil (name : List Char) (filled : name ≠ []) :
    namedSegment name = [.field (String.ofList name)] := by
  cases name with
  | nil => exact absurd rfl filled
  | cons c rest => rfl

/-- A segment out of brackets is one piece with the positions in brackets behind it. -/
theorem exists_piece_of_front {first : Spelled} (plain : first.Plain)
    (unbracketed : first.isBracketed = false) (lead : List Numeral)
    (digits : first.isDigits = true → (!lead.isEmpty) = true) :
    ∃ piece : Piece,
      piece.chars = first.chars ++ (lead.map Numeral.digits).flatMap inBrackets ∧
        piece.segments = first.heard (!lead.isEmpty) :: (lead.map Numeral.value).map .index := by
  cases first with
  | bracketed position => cases unbracketed
  | name text =>
      obtain ⟨filled, apart⟩ := plain
      cases lead with
      | nil =>
          have worded : text.toList.all Text.isDigit = false := by
            simpa [Spelled.isDigits] using digits
          exact ⟨.name ⟨text.toList, apart⟩ worded, by simp [Piece.chars, Spelled.chars],
            by simp [Piece.segments, Spelled.heard, Spelled.segment]⟩
      | cons numeral lead =>
          have named := namedSegment_of_ne_nil text.toList (by simpa using filled)
          simpa [named, Spelled.chars, Spelled.heard, Spelled.segment] using
            exists_groups_piece ⟨text.toList, apart⟩ (List.cons_ne_nil numeral lead)
  | dotted position =>
      have short : (Nat.toDigits 10 position).length ≤ Text.maxIntegerDigits := plain
      cases lead with
      | nil =>
          exact ⟨.number (.ofNat position short), by simp [Piece.chars, Spelled.chars],
            by simp [Piece.segments, Spelled.heard]⟩
      | cons numeral lead =>
          have apart : ∀ c ∈ Nat.toDigits 10 position, c ≠ '.' ∧ isBracket c = false := by
            intro c member
            have digit := Text.isDigit_of_isDecimal (Text.isDecimal_of_mem_toDigits member)
            exact ⟨ne_dot_of_isDigit digit, isBracket_of_isDigit digit⟩
          have named := namedSegment_of_ne_nil (Nat.toDigits 10 position) Nat.toDigits_ne_nil
          simpa [named, Spelled.chars, Spelled.heard, Nat.repr_eq_ofList_toDigits] using
            exists_groups_piece ⟨_, apart⟩ (List.cons_ne_nil numeral lead)

/-- Segments behind others are positions in brackets, which belong to the piece before, and
pieces with a dot in front of each. -/
theorem exists_lead (sound : Sound spelled) :
    ∃ (lead : List Numeral) (behind : List Piece),
      spelled.flatMap Spelled.further =
        (lead.map Numeral.digits).flatMap inBrackets ++ behind.flatMap ('.' :: ·.chars) ∧
      heard spelled = (lead.map Numeral.value).map .index ++ behind.flatMap Piece.segments ∧
      startsBracketed spelled = !lead.isEmpty := by
  induction spelled with
  | nil => exact ⟨[], [], rfl, rfl, rfl⟩
  | cons first rest ih =>
      obtain ⟨plain, digits, soundRest⟩ := sound
      obtain ⟨lead, behind, text, said, brackets⟩ := ih soundRest
      cases place : first.isBracketed with
      | true =>
          cases first with
          | bracketed position =>
              have short : (Nat.toDigits 10 position).length ≤ Text.maxIntegerDigits := plain
              refine ⟨.ofNat position short :: lead, behind, ?_, ?_, rfl⟩
              · simp [Spelled.further, Spelled.isBracketed, Spelled.chars, text]
              · simp [heard, Spelled.heard, Spelled.segment, said]
          | name | dotted => cases place
      | false =>
          rw [brackets] at digits
          obtain ⟨piece, chars, segments⟩ := exists_piece_of_front plain place lead digits
          refine ⟨[], piece :: behind, ?_, ?_, place⟩
          · simp [Spelled.further, place, chars, text]
          · simp [heard, brackets, segments, said]

/-- The text of spelled segments is pieces with dots between them, which say what is heard. -/
theorem exists_spells (nonempty : spelled ≠ []) (sound : Sound spelled) :
    ∃ written : List Piece, Spells written (spelling spelled).toList ∧
      written.flatMap Piece.segments = heard spelled := by
  obtain ⟨lead, behind, text, said, brackets⟩ := exists_lead sound
  obtain ⟨first, rest, rfl⟩ := List.exists_cons_of_ne_nil nonempty
  rw [spelling, String.toList_ofList]
  cases place : first.isBracketed with
  | true =>
      have filled : lead ≠ [] := by
        rintro rfl
        rw [startsBracketed, place] at brackets
        cases brackets
      obtain ⟨piece, chars, segments⟩ := exists_groups_piece ⟨[], by simp⟩ filled
      refine ⟨piece :: behind, .of_joined (List.cons_ne_nil _ _) ?_, ?_⟩
      · simp only [List.flatMap_cons, Spelled.further, place, if_true] at text
        simp only [List.map_cons, Text.joined_cons, chars, text, List.nil_append, List.flatMap_map]
      · rw [said, List.flatMap_cons, segments]
        rfl
  | false =>
      have empty : lead = [] := by simpa [startsBracketed, place] using brackets
      subst empty
      simp only [List.flatMap_cons, Spelled.further, place, Bool.false_eq_true, if_false,
        List.map_nil, List.flatMap_nil, List.nil_append, List.cons_append] at text said
      cases behind with
      | nil => cases text
      | cons piece behind =>
          refine ⟨piece :: behind, .of_joined (List.cons_ne_nil _ _) ?_, said.symm⟩
          rw [List.flatMap_cons, List.cons_append, List.cons.injEq] at text
          rw [List.map_cons, Text.joined_cons, List.flatMap_map, text.2]

/-- Every spelling of segments is a path. -/
theorem parse_spelling (nonempty : spelled ≠ []) (sound : Sound spelled) :
    parse (spelling spelled) = .ok (heard spelled) :=
  parse_eq_ok_iff.mpr (exists_spells nonempty sound)

/-! ### Spellings of one path -/

/-- A position on its own with brackets directly behind it. -/
def Adjoining (spelled : List Spelled) : Prop :=
  ∃ position next, [.dotted position, .bracketed next] <:+: spelled

/-- A segment is heard as it is meant, unless it is a position with brackets directly behind. -/
theorem Spelled.heard_eq_segment_iff (first : Spelled) (rest : List Spelled) :
    first.heard (startsBracketed rest) = first.segment ↔
      ¬∃ position next, [.dotted position, .bracketed next] <+: first :: rest := by
  cases first with
  | name | bracketed => simp [Spelled.heard]
  | dotted position =>
      cases rest with
      | nil => simp [Spelled.heard, Spelled.segment, startsBracketed]
      | cons next rest =>
          cases next <;> simp [Spelled.heard, Spelled.segment, startsBracketed, Spelled.isBracketed]

theorem heard_eq_iff : heard spelled = spelled.map Spelled.segment ↔ ¬Adjoining spelled := by
  induction spelled with
  | nil => simp [heard, Adjoining]
  | cons first rest ih =>
      rw [heard, List.map_cons, List.cons.injEq, Spelled.heard_eq_segment_iff, ih]
      simp only [Adjoining, List.infix_cons_iff, exists_or, not_or]

/-- What segments must be to be written in any way: names are not empty, have no dots and brackets
and are not all digits, and positions are not too long. -/
def Spelled.Valid (spelled : Spelled) : Prop := spelled.Plain ∧ spelled.isDigits = false

instance : DecidablePred Spelled.Valid := fun spelled =>
  inferInstanceAs (Decidable (spelled.Plain ∧ spelled.isDigits = false))

theorem sound_of_valid (valid : ∀ one ∈ spelled, one.Valid) : Sound spelled := by
  induction spelled with
  | nil => trivial
  | cons first rest ih =>
      obtain ⟨plain, named⟩ := valid first List.mem_cons_self
      refine ⟨plain, ?_, ih fun one member => valid one (List.mem_cons_of_mem first member)⟩
      rw [named]
      exact fun digits => absurd digits Bool.false_ne_true

/-- What the spelling of a path does to it. -/
structure Interchangeable (spelled : List Spelled) : Prop where
  /-- Every spelling is read, position by position and name by name. -/
  read : parse (spelling spelled) = .ok (heard spelled)
  /-- What is read are the segments that are written, exactly if no position on its own has
  brackets directly behind it. -/
  faithful : parse (spelling spelled) = .ok (spelled.map Spelled.segment) ↔ ¬Adjoining spelled
  /-- Then every other such spelling of the same segments finds the same key in every message, or
  fails to find one for the same reason. -/
  key : ¬Adjoining spelled → ∀ other : List Spelled, (∀ one ∈ other, one.Valid) →
    other.map Spelled.segment = spelled.map Spelled.segment → ¬Adjoining other →
      ∀ message : Message,
        message.affinityKey (spelling other) = message.affinityKey (spelling spelled)

/-- Behind a dot or in brackets is the same for a position, unless one behind a dot has one in
brackets directly behind it. -/
theorem interchangeable (nonempty : spelled ≠ []) (valid : ∀ one ∈ spelled, one.Valid) :
    Interchangeable spelled := by
  have read : ∀ {written : List Spelled}, written ≠ [] → (∀ one ∈ written, one.Valid) →
      (parse (spelling written) = .ok (written.map Spelled.segment) ↔ ¬Adjoining written) := by
    intro written filled known
    rw [parse_spelling filled (sound_of_valid known), Except.ok.injEq, heard_eq_iff]
  refine ⟨parse_spelling nonempty (sound_of_valid valid), read nonempty valid, ?_⟩
  intro apart other known same otherApart message
  have filled : other ≠ [] := by
    rintro rfl
    exact nonempty (List.map_eq_nil_iff.mp same.symm)
  have one := (read nonempty valid).mpr apart
  have two := (read filled known).mpr otherApart
  rw [Message.affinityKey, Message.affinityKey, one, two, same]

/-- A position in brackets, one behind a dot, and a name: all three ways to go on. -/
theorem interchangeable_rows :
    spelling [.name "rows", .bracketed 0, .dotted 12, .name "id"] = "rows[0].12.id" ∧
      Interchangeable [.name "rows", .bracketed 0, .dotted 12, .name "id"] :=
  ⟨rfl, interchangeable (by decide) (by decide)⟩

/-- The first of two positions is on its own and the second one in brackets: the first one is taken
for a name. -/
theorem position_before_brackets_misread :
    (∀ one ∈ [Spelled.name "rows", .dotted 0, .bracketed 1], one.Valid) ∧
      spelling [.name "rows", .dotted 0, .bracketed 1] = "rows.0[1]" ∧
      parse "rows.0[1]" = .ok [.field "rows", .field "0", .index 1] ∧
      parse "rows.0[1]" ≠
        .ok ([Spelled.name "rows", .dotted 0, .bracketed 1].map Spelled.segment) := by
  refine ⟨by decide, rfl, rfl, ?_⟩
  intro same
  cases same

end AffinityPool.KeyPath
