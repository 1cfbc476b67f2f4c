/-
Module: AffinityPool.Proofs.KeyPath.Piece
Purpose: The ways to write a piece of a path, and that a piece is read exactly if it is written in
  one of them.
Main exports:
  KeyPath.Word, KeyPath.Piece, KeyPath.Piece.chars, KeyPath.Piece.segments,
  KeyPath.pieceSegments_chars, KeyPath.exists_piece
-/
import AffinityPool.Proofs.KeyPath.Numeral
import Mathlib.Data.List.Forall2

namespace AffinityPool.KeyPath

/-!
What may stand between two dots is said here as data: a number, a name, or positions in
brackets, perhaps behind a name.  Each such piece has its characters and its segments, and the
reader of pieces is shown to go from the first to the second, and to read nothing else.
-/

/-- Characters that a name can have: no dots and no brackets. -/
structure Word where
  chars : List Char
  plain : ∀ c ∈ chars, c ≠ '.' ∧ isBracket c = false

/-- A piece of a path. -/
inductive Piece where
  /-- Digits on their own: a position. -/
  | number (numeral : Numeral)
  /-- A name on its own, which is not all digits. -/
  | name (word : Word) (worded : word.chars.all Text.isDigit = false)
  /-- Positions in brackets, behind a name that may be empty.  A line feed may stand behind the
  last bracket. -/
  | groups (front : Word) (numerals : List Numeral) (nonempty : numerals ≠ []) (fed : Bool)

/-- A text in brackets. -/
def inBrackets (inner : List Char) : List Char := '[' :: (inner ++ [']'])

/-- The line feed that may stand behind brackets. -/
def feed (fed : Bool) : List Char := if fed then ['\n'] else []

namespace Piece

/-- How a piece is written. -/
def chars : Piece → List Char
  | .number numeral => numeral.digits
  | .name word _ => word.chars
  | .groups front numerals _ fed =>
      front.chars ++ ((numerals.map Numeral.digits).flatMap inBrackets ++ feed fed)

/-- What a piece says. -/
def segments : Piece → List Segment
  | .number numeral => [.index numeral.value]
  | .name word _ => [.field (String.ofList word.chars)]
  | .groups front numerals _ _ =>
      namedSegment front.chars ++ (numerals.map Numeral.value).map .index

/-- Whether a piece ends in a line feed behind brackets. -/
def fed : Piece → Bool
  | .groups _ _ _ fed => fed
  | _ => false

end Piece

/-! ### Brackets and digits are apart -/

theorem isBracket_of_isDigit {c : Char} (digit : Text.isDigit c = true) : isBracket c = false := by
  by_contra bracket
  rw [Bool.not_eq_false, isBracket, Bool.or_eq_true, decide_eq_true_eq,
    decide_eq_true_eq] at bracket
  rcases bracket with rfl | rfl
  · revert digit
    decide
  · revert digit
    decide

theorem ne_dot_of_isDigit {c : Char} (digit : Text.isDigit c = true) : c ≠ '.' := by
  rintro rfl
  revert digit
  decide

/-! ### Groups -/

variable {groups : List (List Char)} {chars : List Char} {fuel : Nat}

/-- Texts that can stand in brackets one after the other. -/
def AreDigits (groups : List (List Char)) : Prop :=
  ∀ digits ∈ groups, digits ≠ [] ∧ ∀ c ∈ digits, Text.isDecimal c = true

theorem areDigits_numerals (numerals : List Numeral) : AreDigits (numerals.map Numeral.digits) := by
  intro digits member
  obtain ⟨numeral, -, rfl⟩ := List.mem_map.mp member
  exact ⟨numeral.nonempty, numeral.decimal⟩

/-- Digits up to a bracket are read up to the bracket. -/
theorem span_digits {digits : List Char} (decimal : ∀ c ∈ digits, Text.isDecimal c = true)
    (rest : List Char) :
    (digits ++ ']' :: rest).takeWhile Text.isDecimal = digits ∧
      (digits ++ ']' :: rest).dropWhile Text.isDecimal = ']' :: rest := by
  have stop : Text.isDecimal ']' = false := by decide
  constructor
  · rw [List.takeWhile_append_of_pos decimal, List.takeWhile_cons, stop]
    simp
  · rw [List.dropWhile_append_of_pos decimal, List.dropWhile_cons, stop]
    simp

/-- Groups that are written one after the other are read again. -/
theorem groupsUpTo?_inBrackets (nonempty : groups ≠ []) (digits : AreDigits groups) (fed : Bool)
    (enough : groups.length ≤ fuel) :
    groupsUpTo? fuel (groups.flatMap inBrackets ++ feed fed) = some groups := by
  induction groups generalizing fuel with
  | nil => exact absurd rfl nonempty
  | cons first rest ih =>
      obtain ⟨fuel, rfl⟩ : ∃ less, fuel = less + 1 := ⟨fuel - 1, by simp at enough; omega⟩
      obtain ⟨filled, decimal⟩ := digits first List.mem_cons_self
      obtain ⟨taken, left⟩ := span_digits decimal (rest.flatMap inBrackets ++ feed fed)
      have split : (first :: rest).flatMap inBrackets ++ feed fed =
          '[' :: (first ++ ']' :: (rest.flatMap inBrackets ++ feed fed)) := by
        simp [inBrackets]
      rw [split, groupsUpTo?]
      simp only [taken, left]
      cases rest with
      | nil => cases fed <;> simp [feed]
      | cons next others =>
          have later := ih (List.cons_ne_nil next others)
            (fun inner member => digits inner (List.mem_cons_of_mem _ member))
            (Nat.le_of_succ_le_succ enough)
          obtain ⟨tail, begins⟩ :
              ∃ tail, (next :: others).flatMap inBrackets ++ feed fed = '[' :: tail := ⟨_, rfl⟩
          rw [begins] at later ⊢
          cases first with
          | nil => exact absurd rfl filled
          | cons c digits => simp [later]

/-- What is read as groups is written as groups. -/
theorem of_groupsUpTo? (read : groupsUpTo? fuel chars = some groups) :
    groups ≠ [] ∧ AreDigits groups ∧ ∃ fed, chars = groups.flatMap inBrackets ++ feed fed := by
  induction fuel generalizing chars groups with
  | zero => simp [groupsUpTo?] at read
  | succ fuel ih =>
      unfold groupsUpTo? at read
      split at read
      · rename_i inner
        have decimal : ∀ c ∈ inner.takeWhile Text.isDecimal, Text.isDecimal c = true :=
          fun c member => List.mem_takeWhile_imp member
        have group : ∀ tail, inner.dropWhile Text.isDecimal = ']' :: tail →
            '[' :: inner = inBrackets (inner.takeWhile Text.isDecimal) ++ tail := by
          intro tail behind
          conv_lhs =>
            rw [← List.takeWhile_append_dropWhile (p := Text.isDecimal) (l := inner), behind]
          simp [inBrackets]
        have alone : inner.takeWhile Text.isDecimal ≠ [] →
            AreDigits [inner.takeWhile Text.isDecimal] := by
          rintro filled digits (_ | ⟨_, ⟨⟩⟩)
          exact ⟨filled, decimal⟩
        -- The reader's cases: no digits, a last group, one with a line feed behind, more groups.
        split at read
        · cases read
        · rename_i behind filled
          cases read
          exact ⟨by simp, alone filled, false, by simpa [feed] using group _ behind⟩
        · rename_i behind filled
          cases read
          exact ⟨by simp, alone filled, true, by simpa [feed] using group _ behind⟩
        · rename_i rest _ _ behind filled
          obtain ⟨later, found, rfl⟩ := Option.map_eq_some_iff.mp read
          obtain ⟨-, digits, fed, written⟩ := ih found
          refine ⟨List.cons_ne_nil _ _, ?_, fed, ?_⟩
          · intro first member
            rcases List.mem_cons.mp member with rfl | member
            · exact ⟨filled, decimal⟩
            · exact digits first member
          · rw [group _ behind, written, List.flatMap_cons, List.append_assoc]
        · cases read
      · cases read

/-! ### Groups behind a name -/

theorem length_le_flatMap_inBrackets (groups : List (List Char)) :
    groups.length ≤ (groups.flatMap inBrackets).length := by
  induction groups with
  | nil => simp
  | cons group groups ih =>
      simp only [List.flatMap_cons, List.length_append, List.length_cons, inBrackets]
      omega

/-- A name and groups behind it are told apart at the first bracket. -/
theorem bracketed?_inBrackets {name : List Char} (plain : ∀ c ∈ name, isBracket c = false)
    (nonempty : groups ≠ []) (digits : AreDigits groups) (fed : Bool) :
    bracketed? (name ++ (groups.flatMap inBrackets ++ feed fed)) = some (name, groups) := by
  have inside : ∀ c ∈ name, (!isBracket c) = true := fun c member => by simp [plain c member]
  obtain ⟨first, rest, rfl⟩ := List.exists_cons_of_ne_nil nonempty
  obtain ⟨tail, begins⟩ : ∃ tail, (first :: rest).flatMap inBrackets ++ feed fed = '[' :: tail :=
    ⟨_, rfl⟩
  have stop : isBracket '[' = true := by decide
  have taken : (name ++ '[' :: tail).takeWhile (fun c => !isBracket c) = name := by
    rw [List.takeWhile_append_of_pos inside, List.takeWhile_cons, stop]
    simp
  have left : (name ++ '[' :: tail).dropWhile (fun c => !isBracket c) = '[' :: tail := by
    rw [List.dropWhile_append_of_pos inside, List.dropWhile_cons, stop]
    simp
  have enough : (first :: rest).length ≤ ('[' :: tail).length := by
    rw [← begins, List.length_append]
    exact Nat.le_add_right_of_le (length_le_flatMap_inBrackets (first :: rest))
  have found := groupsUpTo?_inBrackets nonempty digits fed enough
  rw [begins] at found ⊢
  simp only [bracketed?, taken, left, found, Option.map_some]

/-- What is taken for a name with groups behind it is written so. -/
theorem of_bracketed? {name : List Char} (read : bracketed? chars = some (name, groups)) :
    (∀ c ∈ name, isBracket c = false) ∧ groups ≠ [] ∧ AreDigits groups ∧
      ∃ fed, chars = name ++ (groups.flatMap inBrackets ++ feed fed) := by
  obtain ⟨found, groupsRead, same⟩ := Option.map_eq_some_iff.mp read
  cases same
  obtain ⟨nonempty, digits, fed, written⟩ := of_groupsUpTo? groupsRead
  refine ⟨?_, nonempty, digits, fed, ?_⟩
  · intro c member
    simpa using List.mem_takeWhile_imp member
  · rw [← written, List.takeWhile_append_dropWhile]

/-- Without brackets there are no groups. -/
theorem bracketed?_eq_none (plain : ∀ c ∈ chars, isBracket c = false) :
    bracketed? chars = none := by
  cases found : bracketed? chars with
  | none => rfl
  | some read =>
      obtain ⟨-, nonempty, -, fed, rfl⟩ := of_bracketed? found
      obtain ⟨first, rest, same⟩ := List.exists_cons_of_ne_nil nonempty
      have bracket := plain '[' (by simp [same, inBrackets])
      exact absurd bracket (by decide)

/-! ### Pieces -/

theorem mapM_eq_ok_iff {α β ε : Type} {f : α → Except ε β} {inputs : List α} {outputs : List β} :
    inputs.mapM f = .ok outputs ↔
      List.Forall₂ (fun one other => f one = .ok other) inputs outputs := by
  induction inputs generalizing outputs with
  | nil =>
      simp only [List.mapM_nil, List.forall₂_nil_left_iff]
      exact ⟨fun same => (Except.ok.inj same).symm, fun same => by rw [same]; rfl⟩
  | cons first rest ih =>
      rw [List.mapM_cons, List.forall₂_cons_left_iff]
      cases one : f first with
      | error failure => simp [bind, Except.bind]
      | ok output =>
          cases others : rest.mapM f with
          | error failure => simp [bind, Except.bind, ← ih, others]
          | ok later => simp [bind, Except.bind, pure, Except.pure, ← ih, others, eq_comm]

/-- Digits of positions are read as these positions. -/
theorem mapM_position (numerals : List Numeral) :
    (numerals.map Numeral.digits).mapM position = .ok (numerals.map Numeral.value) := by
  rw [mapM_eq_ok_iff, List.forall₂_map_left_iff, List.forall₂_map_right_iff, List.forall₂_same]
  exact fun numeral _ => numeral.position_digits

/-- Digits that are read as positions are digits of positions. -/
theorem exists_numerals {values : List Nat} (digits : AreDigits groups)
    (read : groups.mapM position = .ok values) :
    ∃ numerals : List Numeral,
      numerals.map Numeral.digits = groups ∧ numerals.map Numeral.value = values := by
  rw [mapM_eq_ok_iff] at read
  induction read with
  | nil => exact ⟨[], rfl, rfl⟩
  | cons first _ ih =>
      obtain ⟨numerals, rfl, rfl⟩ :=
        ih fun group member => digits group (List.mem_cons_of_mem _ member)
      obtain ⟨decimal, short, rfl⟩ := position_eq_ok_iff.mp first
      exact ⟨⟨_, (digits _ List.mem_cons_self).1, decimal, short⟩ :: numerals, rfl, rfl⟩

namespace Piece

theorem chars_ne_nil (piece : Piece) : piece.chars ≠ [] := by
  cases piece with
  | number numeral => exact numeral.nonempty
  | name word worded =>
      intro empty
      rw [show word.chars = [] from empty] at worded
      cases worded
  | groups front numerals nonempty fed =>
      obtain ⟨first, rest, rfl⟩ := List.exists_cons_of_ne_nil nonempty
      simp [chars, inBrackets]

/-- A piece stays between its dots. -/
theorem dot_notMem_chars (piece : Piece) : '.' ∉ piece.chars := by
  have apart : ∀ numeral : Numeral, '.' ∉ numeral.digits := fun numeral member =>
    ne_dot_of_isDigit (Text.isDigit_of_isDecimal (numeral.decimal _ member)) rfl
  cases piece with
  | number numeral => exact apart numeral
  | name word worded => exact fun member => (word.plain _ member).1 rfl
  | groups front numerals nonempty fed =>
      intro member
      rcases List.mem_append.mp member with inFront | member
      · exact (front.plain _ inFront).1 rfl
      · rcases List.mem_append.mp member with inGroups | inFeed
        · obtain ⟨digits, among, inside⟩ := List.mem_flatMap.mp inGroups
          obtain ⟨numeral, -, rfl⟩ := List.mem_map.mp among
          simp [inBrackets, apart numeral] at inside
        · cases fed <;> simp [feed] at inFeed

end Piece

/-- A piece is read as what it says. -/
theorem pieceSegments_chars (path : String) (piece : Piece) :
    pieceSegments path piece.chars = .ok piece.segments := by
  have filled : piece.chars.isEmpty = false := by simpa using piece.chars_ne_nil
  rw [pieceSegments, filled, if_neg Bool.false_ne_true]
  cases piece with
  | number numeral =>
      have digits : numeral.digits.all Text.isDigit = true :=
        List.all_eq_true.mpr fun c member => Text.isDigit_of_isDecimal (numeral.decimal c member)
      simp only [Piece.chars, Piece.segments, digits, if_true, numeral.position_digits, bind,
        Except.bind]
  | name word worded =>
      have plain : ∀ c ∈ word.chars, isBracket c = false := fun c member => (word.plain c member).2
      have noBracket : word.chars.any isBracket = false := by simpa using plain
      simp only [Piece.chars, Piece.segments, worded, bracketed?_eq_none plain, noBracket,
        Bool.false_eq_true, if_false]
  | groups front numerals nonempty fed =>
      have found := bracketed?_inBrackets (fun c member => (front.plain c member).2)
        (by simpa using nonempty) (areDigits_numerals numerals) fed
      have mixed : (Piece.groups front numerals nonempty fed).chars.all Text.isDigit = false := by
        obtain ⟨first, rest, rfl⟩ := List.exists_cons_of_ne_nil nonempty
        have stop : Text.isDigit '[' = false := by decide
        simp [Piece.chars, inBrackets, stop]
      rw [mixed, if_neg Bool.false_ne_true]
      simp only [Piece.chars, found, mapM_position, Piece.segments, bind, Except.bind]

/-- Only pieces are read. -/
theorem exists_piece {path : String} {segments : List Segment} (free : '.' ∉ chars)
    (read : pieceSegments path chars = .ok segments) :
    ∃ piece : Piece, piece.chars = chars ∧ piece.segments = segments := by
  have plain : ∀ c ∈ chars, isBracket c = false → c ≠ '.' ∧ isBracket c = false := by
    intro c member apart
    exact ⟨fun dot => free (dot ▸ member), apart⟩
  unfold pieceSegments at read
  split at read
  · cases read
  · rename_i filled
    split at read
    · cases found : position chars with
      | error fault => simp [found, bind, Except.bind] at read
      | ok value =>
          simp only [found, bind, Except.bind, Except.ok.injEq] at read
          obtain ⟨decimal, short, rfl⟩ := position_eq_ok_iff.mp found
          exact ⟨.number ⟨chars, by simpa using filled, decimal, short⟩, rfl, read⟩
    · rename_i mixed
      split at read
      · rename_i name groups found
        obtain ⟨apart, nonempty, digits, fed, written⟩ := of_bracketed? found
        cases values : groups.mapM position with
        | error fault => simp [values, bind, Except.bind] at read
        | ok positions =>
            simp only [values, bind, Except.bind, Except.ok.injEq] at read
            obtain ⟨numerals, rfl, rfl⟩ := exists_numerals digits values
            have front : ∀ c ∈ name, c ≠ '.' ∧ isBracket c = false := fun c member =>
              plain c (by rw [written]; exact List.mem_append_left _ member) (apart c member)
            exact ⟨.groups ⟨name, front⟩ numerals (by simpa using nonempty) fed, written.symm, read⟩
      · split at read
        · cases read
        · rename_i noBracket
          have apart : ∀ c ∈ chars, isBracket c = false := by simpa using noBracket
          have word : ∀ c ∈ chars, c ≠ '.' ∧ isBracket c = false := fun c member =>
            plain c member (apart c member)
          cases read
          exact ⟨.name ⟨chars, word⟩ (by simpa using mixed), rfl, rfl⟩

end AffinityPool.KeyPath
