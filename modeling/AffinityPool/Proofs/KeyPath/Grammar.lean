/-
Module: AffinityPool.Proofs.KeyPath.Grammar
Purpose: Which texts are key paths, and that nothing in a path is lost, up to a line feed behind
  brackets.
Main exports:
  KeyPath.Spells, KeyPath.parse_eq_ok_iff, KeyPath.Regular, KeyPath.Fed, KeyPath.Accounted,
  KeyPath.Grammatical, KeyPath.grammatical
-/
import AffinityPool.Proofs.KeyPath.Piece
import Mathlib.Data.Set.List

namespace AffinityPool.KeyPath

/-!
A text is a path if each of its pieces between dots is one of the three kinds of `Piece`.  The
rules of pieces leave nothing behind the last bracket, but a line feed there is read all the same
and said nowhere in the path: `Fed` are the pieces with one.  They are all that sets what is read
apart from the rules.
-/

variable {path : String} {segments : KeyPath} {chars : List Char} {written : List Piece}

/-! ### Paths as lists of pieces -/

/-- A text is written with these pieces, with dots between them. -/
def Spells (written : List Piece) (chars : List Char) : Prop :=
  written.map Piece.chars = Text.pieces '.' chars

namespace Spells

theorem joined (spells : Spells written chars) :
    Text.joined '.' (written.map Piece.chars) = chars := by
  rw [spells, Text.joined_pieces]

/-- Pieces with dots between them are the pieces of what they make together. -/
theorem of_joined (nonempty : written ≠ [])
    (joined : Text.joined '.' (written.map Piece.chars) = chars) : Spells written chars := by
  rw [Spells, ← joined, Text.pieces_joined (by simpa using nonempty)]
  intro part member
  obtain ⟨piece, -, rfl⟩ := List.mem_map.mp member
  exact piece.dot_notMem_chars

theorem nonempty (spells : Spells written chars) : written ≠ [] := by
  rintro rfl
  exact Text.pieces_ne_nil '.' chars spells.symm

/-- The empty text has a piece without characters. -/
theorem chars_ne_nil (spells : Spells written chars) : chars ≠ [] := by
  rintro rfl
  obtain ⟨piece, rest, rfl⟩ := List.exists_cons_of_ne_nil spells.nonempty
  exact piece.chars_ne_nil (List.cons.inj spells).1

end Spells

/-- If each text of a list is read by itself, all of them are pieces. -/
theorem exists_pieces {texts : List (List Char)} {parts : List (List Segment)}
    (free : ∀ text ∈ texts, '.' ∉ text)
    (read : List.Forall₂ (fun text part => pieceSegments path text = .ok part) texts parts) :
    ∃ written : List Piece, written.map Piece.chars = texts ∧
      written.map Piece.segments = parts := by
  induction read with
  | nil => exact ⟨[], rfl, rfl⟩
  | cons first _ ih =>
      obtain ⟨piece, rfl, rfl⟩ := exists_piece (free _ List.mem_cons_self) first
      obtain ⟨written, rfl, rfl⟩ := ih fun text member => free text (List.mem_cons_of_mem _ member)
      exact ⟨piece :: written, rfl, rfl⟩

/-- The texts between dots are read one by one if they are pieces. -/
theorem mapM_pieceSegments_eq_ok_iff {parts : List (List Segment)} :
    (Text.pieces '.' chars).mapM (pieceSegments path) = .ok parts ↔
      ∃ written, Spells written chars ∧ written.map Piece.segments = parts := by
  rw [mapM_eq_ok_iff]
  constructor
  · exact exists_pieces fun text member => Text.notMem_of_mem_pieces member
  · rintro ⟨written, spells, rfl⟩
    rw [← spells, List.forall₂_map_left_iff, List.forall₂_map_right_iff, List.forall₂_same]
    exact fun piece _ => pieceSegments_chars path piece

/-- A text is read as what the pieces say that it is written with. -/
theorem parse_eq_ok_iff :
    parse path = .ok segments ↔
      ∃ written, Spells written path.toList ∧ written.flatMap Piece.segments = segments := by
  unfold parse
  split
  · rename_i empty
    refine iff_of_false (by simp) ?_
    rintro ⟨written, spells, -⟩
    exact spells.chars_ne_nil (List.isEmpty_iff.mp empty)
  · have readAll : ∀ parts, (Text.pieces '.' path.toList).mapM (pieceSegments path) = .ok parts ↔
        ∃ written, Spells written path.toList ∧ written.map Piece.segments = parts :=
      fun _ => mapM_pieceSegments_eq_ok_iff
    cases read : (Text.pieces '.' path.toList).mapM (pieceSegments path) with
    | error fault =>
        have unspelled : ¬∃ written, Spells written path.toList := by
          rintro ⟨written, spells⟩
          have known := (readAll _).mpr ⟨written, spells, rfl⟩
          rw [read] at known
          cases known
        refine iff_of_false (by simp [bind, Except.bind]) ?_
        rintro ⟨written, spells, -⟩
        exact unspelled ⟨written, spells⟩
    | ok parts =>
        simp only [read, Except.ok.injEq] at readAll
        simp only [bind, Except.bind, Except.ok.injEq]
        constructor
        · rintro rfl
          obtain ⟨written, spells, rfl⟩ := (readAll parts).mp rfl
          exact ⟨written, spells, List.flatMap_def⟩
        · rintro ⟨written, spells, rfl⟩
          rw [(readAll _).mpr ⟨written, spells, rfl⟩, List.flatMap_def]

/-! ### The rules of pieces -/

/-- A piece by the rules: digits that are a position, a name that is not all digits, or positions in
brackets behind a name that may be empty, with nothing behind the last bracket. -/
def Regular (chars : List Char) : Prop := ∃ piece : Piece, piece.fed = false ∧ piece.chars = chars

/-- A piece with a line feed behind its last bracket. -/
def Fed (chars : List Char) : Prop := ∃ piece : Piece, piece.fed = true ∧ piece.chars = chars

theorem regular_or_fed_iff : Regular chars ∨ Fed chars ↔ ∃ piece : Piece, piece.chars = chars := by
  constructor
  · rintro (⟨piece, -, written⟩ | ⟨piece, -, written⟩) <;> exact ⟨piece, written⟩
  · rintro ⟨piece, written⟩
    cases fed : piece.fed
    · exact Or.inl ⟨piece, fed, written⟩
    · exact Or.inr ⟨piece, fed, written⟩

/-- A line feed behind brackets can be told from the characters. -/
theorem Piece.fed_iff (piece : Piece) :
    piece.fed = true ↔ piece.chars.any isBracket = true ∧ piece.chars.getLast? = some '\n' := by
  cases piece with
  | number numeral =>
      have plain : numeral.digits.any isBracket = false := by
        simpa using fun c member =>
          isBracket_of_isDigit (Text.isDigit_of_isDecimal (numeral.decimal c member))
      simp [Piece.fed, Piece.chars, plain]
  | name word worded =>
      have plain : word.chars.any isBracket = false := by
        simpa using fun c member => (word.plain c member).2
      simp [Piece.fed, Piece.chars, plain]
  | groups front numerals nonempty fed =>
      obtain ⟨before, last, rfl⟩ : ∃ before last, numerals = before ++ [last] :=
        ⟨_, _, (List.dropLast_append_getLast nonempty).symm⟩
      have bracket : isBracket '[' = true := by decide
      have ends : (Piece.groups front (before ++ [last]) nonempty fed).chars =
          front.chars ++ ((before.map Numeral.digits).flatMap inBrackets ++ '[' :: last.digits) ++
            (']' :: feed fed) := by
        simp [Piece.chars, inBrackets]
      rw [ends, List.getLast?_append]
      cases fed <;> simp [Piece.fed, feed, bracket]

theorem not_regular_of_fed (fed : Fed chars) : ¬Regular chars := by
  obtain ⟨piece, isFed, rfl⟩ := fed
  rintro ⟨other, notFed, same⟩
  rw [Piece.fed_iff, ← same, ← Piece.fed_iff, notFed] at isFed
  cases isFed

/-- A text is accepted if each of its pieces is one by the rules or is fed. -/
theorem accepted_iff :
    (∃ segments, parse path = .ok segments) ↔
      ∀ text ∈ Text.pieces '.' path.toList, Regular text ∨ Fed text := by
  have covered : ∀ texts : List (List Char),
      (∃ written : List Piece, written.map Piece.chars = texts) ↔
        ∀ text ∈ texts, ∃ piece : Piece, piece.chars = text := by
    intro texts
    simpa using Set.ext_iff.mp (Set.range_list_map Piece.chars) texts
  simp only [regular_or_fed_iff, ← covered, parse_eq_ok_iff]
  constructor
  · rintro ⟨segments, written, spells, -⟩
    exact ⟨written, spells⟩
  · rintro ⟨written, spells⟩
    exact ⟨_, written, spells, rfl⟩

/-! ### What becomes of the characters -/

/-- A character that segments account for: a bracket, a character of a name, or a digit of a
position. -/
def Accounted (segments : List Segment) (c : Char) : Prop :=
  isBracket c = true ∨ (∃ name, Segment.field name ∈ segments ∧ c ∈ name.toList) ∨
    ∃ numeral : Numeral, Segment.index numeral.value ∈ segments ∧ c ∈ numeral.digits

theorem Accounted.mono {some more : List Segment} {c : Char} (accounted : Accounted some c)
    (inside : some ⊆ more) : Accounted more c := by
  rcases accounted with bracket | ⟨name, member, here⟩ | ⟨numeral, member, here⟩
  · exact Or.inl bracket
  · exact Or.inr (Or.inl ⟨name, inside member, here⟩)
  · exact Or.inr (Or.inr ⟨numeral, inside member, here⟩)

/-- A piece accounts for all its characters but the line feed behind brackets. -/
theorem Piece.accounted (piece : Piece) {c : Char} (member : c ∈ piece.chars) :
    Accounted piece.segments c ∨ piece.fed = true ∧ c = '\n' := by
  cases piece with
  | number numeral =>
      exact Or.inl (Or.inr (Or.inr ⟨numeral, by simp [Piece.segments], member⟩))
  | name word worded =>
      exact Or.inl (Or.inr (Or.inl
        ⟨String.ofList word.chars, by simp [Piece.segments], by simpa [chars] using member⟩))
  | groups front numerals nonempty fed =>
      rcases List.mem_append.mp member with inFront | member
      · refine Or.inl (Or.inr (Or.inl ⟨String.ofList front.chars, ?_, by simpa using inFront⟩))
        obtain ⟨first, rest, same⟩ := List.exists_cons_of_ne_nil (List.ne_nil_of_mem inFront)
        simp [Piece.segments, namedSegment, same]
      · rcases List.mem_append.mp member with inGroups | inFeed
        · obtain ⟨digits, among, inside⟩ := List.mem_flatMap.mp inGroups
          obtain ⟨numeral, known, rfl⟩ := List.mem_map.mp among
          simp only [inBrackets, List.mem_cons, List.mem_append, List.not_mem_nil,
            or_false] at inside
          rcases inside with rfl | here | rfl
          · exact Or.inl (Or.inl rfl)
          · have said : Segment.index numeral.value ∈
                (numerals.map Numeral.value).map Segment.index :=
              List.mem_map_of_mem (List.mem_map_of_mem known)
            exact Or.inl (Or.inr (Or.inr ⟨numeral, List.mem_append_right _ said, here⟩))
          · exact Or.inl (Or.inl rfl)
        · cases fed with
          | false => simp [feed] at inFeed
          | true => exact Or.inr ⟨rfl, by simpa [feed] using inFeed⟩

/-! ### The grammar -/

/-- How a text stands to the rules of paths. -/
structure Grammatical (path : String) : Prop where
  /-- A text is accepted exactly if each of its pieces is one by the rules, or one by the rules
  with a line feed behind brackets. -/
  accepted : (∃ segments, parse path = .ok segments) ↔
    ∀ text ∈ Text.pieces '.' path.toList, Regular text ∨ Fed text
  /-- Every other text is refused. -/
  refused : (∃ fault, parse path = .error fault) ↔
    ∃ text ∈ Text.pieces '.' path.toList, ¬Regular text ∧ ¬Fed text
  /-- Being accepted and having pieces by the rules only is the same, exactly if the text is not
  accepted with a line feed behind brackets. -/
  byRules :
    ((∃ segments, parse path = .ok segments) ↔
        ∀ text ∈ Text.pieces '.' path.toList, Regular text) ↔
      ¬((∃ segments, parse path = .ok segments) ∧ ∃ text ∈ Text.pieces '.' path.toList, Fed text)
  /-- What is accepted is pieces with dots between them, and its segments are those of the
  pieces. -/
  spelled : ∀ segments, parse path = .ok segments →
    ∃ written : List Piece, Text.joined '.' (written.map Piece.chars) = path.toList ∧
      written.flatMap Piece.segments = segments
  /-- So every character is a dot, or the segments account for it, or it is a line feed in a text
  with one behind brackets. -/
  accounted : ∀ segments, parse path = .ok segments → ∀ c ∈ path.toList,
    c = '.' ∨ Accounted segments c ∨
      c = '\n' ∧ ∃ text ∈ Text.pieces '.' path.toList, Fed text

/-- Every text is accepted or refused by the rules of pieces, a line feed behind brackets apart,
and an accepted text says all of its characters but such line feeds. -/
theorem grammatical (path : String) : Grammatical path where
  accepted := accepted_iff
  refused := by
    have other : (∃ fault, parse path = .error fault) ↔ ¬∃ segments, parse path = .ok segments := by
      cases parse path <;> simp
    rw [other, accepted_iff]
    push Not
    rfl
  byRules := by
    rw [accepted_iff]
    constructor
    · rintro same ⟨accepted, text, member, fed⟩
      exact not_regular_of_fed fed (same.mp accepted text member)
    · intro unfed
      refine ⟨fun accepted text member => ?_, fun regular text member => ?_⟩
      · exact (accepted text member).resolve_right fun fed => unfed ⟨accepted, text, member, fed⟩
      · exact Or.inl (regular text member)
  spelled segments read := by
    obtain ⟨written, spells, said⟩ := parse_eq_ok_iff.mp read
    exact ⟨written, spells.joined, said⟩
  accounted segments read c member := by
    obtain ⟨written, spells, rfl⟩ := parse_eq_ok_iff.mp read
    rw [← spells.joined] at member
    rcases Text.mem_joined member with dot | ⟨text, among, inside⟩
    · exact Or.inl dot
    · obtain ⟨piece, known, rfl⟩ := List.mem_map.mp among
      right
      rcases piece.accounted inside with accounted | ⟨fed, feed⟩
      · exact Or.inl (accounted.mono fun segment said => List.mem_flatMap.mpr ⟨piece, known, said⟩)
      · refine Or.inr ⟨feed, piece.chars, ?_, piece, fed, rfl⟩
        rw [← spells]
        exact among

/-- A line feed behind brackets is passed over: the text is accepted, and its one piece is none by
the rules. -/
theorem feed_passed_over :
    parse "rows[0]\n" = .ok [.field "rows", .index 0] ∧
      ¬((∃ segments, parse "rows[0]\n" = .ok segments) ↔
        ∀ text ∈ Text.pieces '.' "rows[0]\n".toList, Regular text) := by
  have read : parse "rows[0]\n" = .ok [.field "rows", .index 0] := rfl
  have one : Text.pieces '.' "rows[0]\n".toList = ["rows[0]\n".toList] := rfl
  refine ⟨read, fun same => ?_⟩
  obtain ⟨piece, regular, written⟩ := same.mp ⟨_, read⟩ "rows[0]\n".toList
    (by rw [one]; exact List.mem_singleton_self _)
  have fed : piece.fed = true := piece.fed_iff.mpr (by rw [written]; decide)
  rw [regular] at fed
  cases fed

end AffinityPool.KeyPath
