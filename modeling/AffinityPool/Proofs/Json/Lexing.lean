/-
Module: AffinityPool.Proofs.Json.Lexing
Purpose: The tokens of a written JSON document.
Main exports:
  Json.Stops, Json.tokens_number, Json.tokens_quoted, Json.Script.tokens, Json.Cut,
  Json.Page.tokens_chars
-/
import AffinityPool.Proofs.Json.Script
import AffinityPool.Proofs.Json.Token

namespace AffinityPool.Json

open Text (Letter)

/-!
Blanks are passed over, marks and words are taken as they stand, and a text ends at its closing
mark.  A number is the one token that could go on, so what stands behind it must stop it; in a
document a blank, a comma or a closing mark does.
-/

variable {letters rest : List Letter} {letter : Letter} {token : Token}

/-! ### What letters start with -/

/-- The first of some letters, if there is one, is of another kind. -/
def Apart (kind : Letter → Bool) (letters : List Letter) : Prop :=
  ∀ letter others, letters = letter :: others → kind letter = false

theorem Apart.nil (kind : Letter → Bool) : Apart kind [] := fun _ _ same => by cases same

/-- Letters stand apart from a kind if the first one is not of it. -/
theorem apart_cons_iff {kind : Letter → Bool} :
    Apart kind (letter :: rest) ↔ kind letter = false := by
  constructor
  · exact fun apart => apart letter rest rfl
  · rintro plain other others same
    rw [← (List.cons.inj same).1, plain]

/-- Letters that are not of a kind keep what stands behind them apart from it. -/
theorem Apart.append {kind : Letter → Bool} {front : List Letter}
    (plain : ∀ letter ∈ front, kind letter = false) (apart : Apart kind rest) :
    Apart kind (front ++ rest) := by
  cases front with
  | nil => exact apart
  | cons first front => exact apart_cons_iff.mpr (plain first List.mem_cons_self)

/-- What stands apart from a wide kind stands apart from a narrow one. -/
theorem Apart.mono {narrow wide : Letter → Bool}
    (less : ∀ letter, narrow letter = true → wide letter = true) (apart : Apart wide letters) :
    Apart narrow letters := by
  intro letter others same
  rw [Bool.eq_false_iff]
  exact fun held => Bool.eq_false_iff.mp (apart letter others same) (less letter held)

/-! ### Numbers -/

/-- Whether a whole part could go on with a letter, or a fraction behind it begin. -/
def continuesWhole (letter : Letter) : Bool := isNumeralDigit letter || letter = .char '.'

/-- Whether a number could go on with a letter. -/
def continuesNumber (letter : Letter) : Bool :=
  continuesWhole letter || letter = .char 'e' || letter = .char 'E'

/-- Letters that a number in front of them stops at. -/
abbrev Stops (letters : List Letter) : Prop := Apart continuesNumber letters

theorem Stops.apart_continuesWhole (stops : Stops letters) : Apart continuesWhole letters :=
  stops.mono fun letter held => by simp [continuesNumber, held]

theorem Apart.apart_isNumeralDigit (apart : Apart continuesWhole letters) :
    Apart isNumeralDigit letters :=
  apart.mono fun letter held => by simp [Json.continuesWhole, held]

/-- Digits of a numeral begin with a digit. -/
theorem AreNumeralDigits.exists_cons {digits : List Char} (numeral : AreNumeralDigits digits) :
    ∃ c others, digits = c :: others ∧ isNumeralDigit (.char c) = true := by
  obtain ⟨c, others, rfl⟩ := List.exists_cons_of_ne_nil numeral.1
  exact ⟨c, others, rfl, numeral.2 c List.mem_cons_self⟩

/-- Digits are taken up to the first letter that is none. -/
theorem digitsOf_append {digits : List Char} (numeral : AreNumeralDigits digits)
    (apart : Apart isNumeralDigit rest) : digitsOf (digits.map .char ++ rest) = (digits, rest) := by
  have all : ∀ letter ∈ digits.map Letter.char, isNumeralDigit letter = true := by
    simpa using numeral.2
  have none : rest.takeWhile isNumeralDigit = [] ∧ rest.dropWhile isNumeralDigit = rest := by
    cases rest with
    | nil => exact ⟨rfl, rfl⟩
    | cons letter others =>
        have plain := apart_cons_iff.mp apart
        simp [plain]
  rw [digitsOf, List.takeWhile_append_of_pos all, List.dropWhile_append_of_pos all, none.1, none.2,
    List.append_nil, List.filterMap_map]
  simp [Function.comp_def, Letter.char?]

/-- The whole part of a number is taken up to its end. -/
theorem wholePart?_append {digits : List Char} (numeral : AreNumeralDigits digits)
    (first : digits.head? = some '0' → digits = ['0']) (apart : Apart isNumeralDigit rest) :
    wholePart? (digits.map .char ++ rest) = some (digits, rest) := by
  obtain ⟨c, others, rfl, -⟩ := numeral.exists_cons
  by_cases zero : c = '0'
  · rw [first (by simp [zero])]
    rfl
  · have taken := digitsOf_append numeral apart
    unfold wholePart?
    split
    · rename_i same
      exact absurd (Letter.char.inj (List.cons.inj same).1) zero
    · rw [taken]

/-- The fraction of a number is taken up to its end, if it has one. -/
theorem fractionPart_append (number : Number) (apart : Apart continuesWhole rest) :
    fractionPart (number.fractionChars.map .char ++ rest) = (number.numeral.fraction, rest) := by
  cases held : number.numeral.fraction with
  | none =>
      rw [Number.fractionChars, held, List.map_nil, List.nil_append]
      unfold fractionPart
      split
      · cases apart_cons_iff.mp apart
      · rfl
  | some digits =>
      have numeral := number.fraction digits held
      have taken := digitsOf_append numeral apart.apart_isNumeralDigit
      obtain ⟨c, others, rfl, -⟩ := numeral.exists_cons
      rw [Number.fractionChars, held, List.map_cons, List.cons_append]
      simp only [fractionPart, taken]

/-- The sign of an exponent is taken, if it has one. -/
theorem exponentSign_append (number : Number) (negative : Bool) {digits : List Char}
    (numeral : AreNumeralDigits digits) :
    exponentSign ((number.signChars negative ++ digits).map .char ++ rest) =
      (negative, digits.map .char ++ rest) := by
  cases negative with
  | true => rfl
  | false =>
      cases plus : number.plus with
      | true =>
          rw [Number.signChars, plus]
          rfl
      | false =>
          -- A digit is no sign.
          obtain ⟨c, others, rfl, digit⟩ := numeral.exists_cons
          rw [Number.signChars, plus]
          simp only [Bool.false_eq_true, if_false, List.nil_append, List.map_cons, List.cons_append]
          unfold exponentSign
          split
          · rename_i same
            cases same
            cases digit
          · rename_i same
            cases same
            cases digit
          · rfl

/-- The exponent of a number is taken up to its end, if it has one. -/
theorem exponentPart_append (number : Number) (stops : Stops rest) :
    exponentPart (number.exponentChars.map .char ++ rest) = (number.numeral.exponent, rest) := by
  cases held : number.numeral.exponent with
  | none =>
      rw [Number.exponentChars, held, List.map_nil, List.nil_append]
      unfold exponentPart
      split
      · rename_i c others
        have other : ¬(c = 'e' ∨ c = 'E') := by
          rintro (rfl | rfl) <;> cases apart_cons_iff.mp stops
        rw [if_neg other]
      · rfl
  | some exponent =>
      obtain ⟨negative, digits⟩ := exponent
      have numeral := number.exponent negative digits held
      have taken := digitsOf_append numeral stops.apart_continuesWhole.apart_isNumeralDigit
      have letter : ∀ capital : Bool, (if capital then 'E' else 'e') = 'e' ∨
          (if capital then 'E' else 'e') = 'E' := by decide
      rw [Number.exponentChars, held, List.map_cons, List.cons_append]
      simp only [exponentPart, if_pos (letter number.capital),
        exponentSign_append number negative numeral, taken]
      obtain ⟨c, others, rfl, -⟩ := numeral.exists_cons
      rfl

/-- An exponent starts with its letter. -/
theorem apart_exponentChars {kind : Letter → Bool} (number : Number)
    (plain : ∀ capital : Bool, kind (.char (if capital then 'E' else 'e')) = false)
    (apart : Apart kind rest) : Apart kind (number.exponentChars.map .char ++ rest) := by
  rw [Number.exponentChars]
  split
  · exact apart
  · exact apart_cons_iff.mpr (plain number.capital)

/-- A fraction starts with its point. -/
theorem apart_fractionChars {kind : Letter → Bool} (number : Number)
    (plain : kind (.char '.') = false) (apart : Apart kind rest) :
    Apart kind (number.fractionChars.map .char ++ rest) := by
  rw [Number.fractionChars]
  split
  · exact apart
  · exact apart_cons_iff.mpr plain

/-- A number without its sign is taken up to its end. -/
theorem numeral?_append (number : Number) (stops : Stops rest) :
    numeral? number.numeral.negative (number.unsignedChars.map .char ++ rest) =
      some (number.numeral, rest) := by
  have behindFraction := apart_exponentChars number (by decide) stops.apart_continuesWhole
  have behindWhole := apart_fractionChars number (by decide)
    (apart_exponentChars number (by decide) stops.apart_continuesWhole.apart_isNumeralDigit)
  have whole := wholePart?_append number.whole number.first behindWhole
  rw [numeral?_eq_map, Number.unsignedChars, List.map_append, List.map_append, List.append_assoc,
    List.append_assoc, whole]
  simp only [Option.map_some, fractionPart_append number behindFraction,
    exponentPart_append number stops]

/-- A number starts with a digit, or with a minus sign and a digit. -/
theorem Number.chars_eq (number : Number) :
    ∃ c others, isNumeralDigit (.char c) = true ∧ number.unsignedChars = c :: others ∧
      number.chars = if number.numeral.negative then '-' :: c :: others else c :: others := by
  obtain ⟨c, others, same, digit⟩ := number.whole.exists_cons
  have unsigned : number.unsignedChars =
      c :: (others ++ (number.fractionChars ++ number.exponentChars)) := by
    rw [unsignedChars, same, List.cons_append]
  exact ⟨c, _, digit, unsigned, by rw [Number.chars, unsigned]⟩

/-- The number that stands at the start of a text is read as it is. -/
theorem number?_append (number : Number) (stops : Stops rest) :
    number? (number.chars.map .char ++ rest) = some (.number number.numeral, rest) := by
  have read := numeral?_append number stops
  obtain ⟨c, others, digit, unsigned, same⟩ := number.chars_eq
  rw [unsigned] at read
  cases negative : number.numeral.negative with
  | true =>
      rw [same, if_pos negative, List.map_cons, List.cons_append, number?_minus, ← negative, read]
      rfl
  | false =>
      rw [same, negative, if_neg Bool.false_ne_true, number?_of_ne, ← negative, read]
      · rfl
      · intro after minus
        cases (List.cons.inj minus).1
        cases digit

/-! ### Marks, blanks and words -/

/-- Blanks leave no trace. -/
theorem tokens_blanks (blanks : List Blank) (rest : List Letter) :
    tokens ((blanks.map Blank.char).map .char ++ rest) = tokens rest := by
  induction blanks with
  | nil => rfl
  | cons blank blanks ih =>
      have passed : isSpace (.char blank.char) = true := by cases blank <;> rfl
      rw [List.map_cons, List.map_cons, List.cons_append, tokens_of_isSpace passed, ih]

/-- A number ends in front of blanks. -/
theorem stops_blanks (blanks : List Blank) (stops : Stops rest) :
    Stops ((blanks.map Blank.char).map .char ++ rest) := by
  refine stops.append fun letter member => ?_
  obtain ⟨c, among, rfl⟩ := List.mem_map.mp member
  obtain ⟨blank, -, rfl⟩ := List.mem_map.mp among
  cases blank <;> rfl

/-- A token is cut off. -/
theorem tokens_of_firstToken (filled : isSpace letter = false)
    (first : firstToken (letter :: letters) = (token, rest)) :
    tokens (letter :: letters) = token :: tokens rest := by
  rw [tokens_of_not_isSpace filled, first]

/-- The characters that are a token by themselves. -/
def markTokens : List (Char × Token) :=
  [('[', .openArray), (']', .closeArray), ('\x7b', .openObject), ('\x7d', .closeObject),
    (',', .comma), (':', .colon)]

/-- A mark is one token. -/
theorem tokens_mark {c : Char} (mark : (c, token) ∈ markTokens) (rest : List Letter) :
    tokens (.char c :: rest) = token :: tokens rest := by
  simp only [markTokens, List.mem_cons, Prod.mk.injEq, List.not_mem_nil, or_false] at mark
  rcases mark with ⟨rfl, rfl⟩ | ⟨rfl, rfl⟩ | ⟨rfl, rfl⟩ | ⟨rfl, rfl⟩ | ⟨rfl, rfl⟩ | ⟨rfl, rfl⟩ <;>
    exact tokens_of_firstToken rfl rfl

/-- A number ends in front of a mark. -/
theorem stops_mark {c : Char} (mark : (c, token) ∈ markTokens) (rest : List Letter) :
    Stops (.char c :: rest) := by
  have table : ∀ entry ∈ markTokens, continuesNumber (.char entry.1) = false := by decide
  exact apart_cons_iff.mpr (table _ mark)

/-- No word has a digit in one of its first two places. -/
theorem word?_eq_none {c : Char} (n : Nat) (early : n < 2) (found : letters[n]? = some (.char c))
    (digit : isNumeralDigit (.char c) = true) : word? letters = none := by
  have table : ∀ entry ∈ words, ∀ n < 2,
      (entry.1.toList[n]?).map (fun d => isNumeralDigit (.char d)) = some false := by decide
  rw [word?, List.findSome?_eq_none_iff]
  rintro ⟨word, token⟩ member
  rw [Option.map_eq_none_iff]
  cases taken : dropWord? word letters with
  | none => rfl
  | some after =>
      obtain ⟨d, written, plain⟩ := Option.map_eq_some_iff.mp (table _ member n early)
      obtain ⟨inside, -⟩ := List.getElem?_eq_some_iff.mp written
      rw [dropWord?_eq_some_iff.mp taken, List.getElem?_append_left (by simpa using inside),
        List.getElem?_map, written] at found
      cases found
      rw [digit] at plain
      cases plain

/-- What stands behind a number is cut on its own. -/
theorem tokens_number (number : Number) (stops : Stops rest) :
    tokens (number.chars.map .char ++ rest) = .number number.numeral :: tokens rest := by
  have read := number?_append number stops
  obtain ⟨c, others, digit, -, same⟩ := number.chars_eq
  have plain : .char c ∉ marks ∧ isSpace (.char c) = false := by
    simp only [isNumeralDigit, Bool.and_eq_true, decide_eq_true_eq] at digit
    constructor
    · simp only [marks, List.map_cons, List.map_nil, List.mem_cons, List.not_mem_nil, or_false,
        Letter.char.injEq]
      rintro (rfl | rfl | rfl | rfl | rfl | rfl | rfl) <;> revert digit <;> decide
    · simp only [isSpace, Bool.or_eq_false_iff, decide_eq_false_iff_not]
      refine ⟨⟨⟨?_, ?_⟩, ?_⟩, ?_⟩ <;> rintro rfl <;> revert digit <;> decide
  cases negative : number.numeral.negative with
  | true =>
      rw [same, if_pos negative, List.map_cons, List.map_cons, List.cons_append,
        List.cons_append] at read ⊢
      refine tokens_of_firstToken rfl ?_
      rw [firstToken_of_notMem_marks (by decide), word?_eq_none 1 (by decide) rfl digit, read]
      rfl
  | false =>
      rw [same, negative, if_neg Bool.false_ne_true, List.map_cons, List.cons_append] at read ⊢
      refine tokens_of_firstToken plain.2 ?_
      rw [firstToken_of_notMem_marks plain.1, word?_eq_none 0 (by decide) rfl digit, read]
      rfl

/-! ### Texts -/

/-- What a stroke puts into the body of a text. -/
def Stroke.written : Stroke → List Written
  | .plain c _ | .short _ c _ => [.letter (.char c)]
  | .coded code _ => [.unit code.unit]
  | .paired high low _ => [.unit high.unit, .unit low.unit]

/-- A text goes on behind what one stroke writes. -/
theorem Body.stroke (stroke : Stroke) {body : List Written} (behind : Body letters body rest) :
    Body (stroke.chars.map .char ++ letters) (stroke.written ++ body) rest := by
  cases stroke with
  | plain c inner =>
      refine .alone ?_ ?_ behind
      · simp [standsAlone, inner.2.1, inner.2.2]
      · simpa using inner.1
  | short mark c reads => exact .escaped reads behind
  | coded code alone => exact .coded code.reads behind
  | paired high low pair => exact .coded high.reads (.coded low.reads behind)

/-- Strokes up to the quotation mark are the body of a text. -/
theorem Body.strokes (strokes : List Stroke) (rest : List Letter) :
    Body ((strokes.flatMap Stroke.chars ++ ['"']).map .char ++ rest)
      (strokes.flatMap Stroke.written) rest := by
  induction strokes with
  | nil => exact .close rest
  | cons stroke strokes ih =>
      rw [List.flatMap_cons, List.flatMap_cons, List.append_assoc, List.map_append,
        List.append_assoc]
      exact ih.stroke stroke

theorem not_arePair_of_not_isHalf {high : Nat} (alone : Letter.isHalf high = false) (low : Nat) :
    Letter.arePair high low = false := by
  simp only [Letter.isHalf, Letter.arePair, Bool.and_eq_false_iff, decide_eq_false_iff_not] at *
  omega

/-- A unit that is no half is a character by itself. -/
theorem joinPairs_unit {unit : Nat} (alone : Letter.isHalf unit = false) (body : List Written) :
    joinPairs (.unit unit :: body) = .char (Char.ofNat unit) :: joinPairs body := by
  have single : Letter.ofUnit unit = .char (Char.ofNat unit) := by
    rw [Letter.ofUnit, alone, if_neg Bool.false_ne_true]
  cases body with
  | nil => simp only [joinPairs, single]
  | cons written body =>
      cases written with
      | letter letter => simp only [joinPairs, single]
      | unit low =>
          rw [joinPairs, not_arePair_of_not_isHalf alone low, if_neg Bool.false_ne_true, single]

/-- Every stroke makes the character that it writes, whatever stands beside it. -/
theorem joinPairs_written (strokes : List Stroke) :
    joinPairs (strokes.flatMap Stroke.written) = (strokes.map Stroke.char).map .char := by
  induction strokes with
  | nil => rfl
  | cons stroke strokes ih =>
      rw [List.flatMap_cons, List.map_cons, List.map_cons, ← ih]
      cases stroke with
      | plain c inner | short mark c reads => rfl
      | coded code alone => exact joinPairs_unit alone _
      | paired high low pair =>
          simp only [Stroke.written, List.cons_append, List.nil_append]
          rw [joinPairs, if_pos pair]
          rfl

/-- A text is cut off at its closing mark. -/
theorem tokens_quoted (strokes : List Stroke) (rest : List Letter) :
    tokens ((Stroke.quoted strokes).map .char ++ rest) =
      .text (Stroke.text strokes) :: tokens rest := by
  rw [Stroke.quoted, List.map_cons, List.cons_append]
  refine tokens_of_firstToken rfl ?_
  rw [firstToken.eq_7, bodyOf?_eq_some_iff.mpr (Body.strokes strokes rest)]
  simp only [joinPairs_written, Stroke.text, Text.LooseText.ofChars]

/-! ### Values -/

mutual

/-- The tokens of a value. -/
def Script.tokens : Script → List Token
  | .null => [.null]
  | .bool value => [.bool value]
  | .number number => [.number number.numeral]
  | .text strokes => [.text (Stroke.text strokes)]
  | .hollow .array _ => [.openArray, .closeArray]
  | .hollow .object _ => [.openObject, .closeObject]
  | .array items => .openArray :: (items.tokens ++ [.closeArray])
  | .object entries => .openObject :: (entries.tokens ++ [.closeObject])

def Items.tokens : Items → List Token
  | .last _ item => item.tokens
  | .more _ item others => item.tokens ++ .comma :: others.tokens

def Entries.tokens : Entries → List Token
  | .last label _ value => .text (Stroke.text label.strokes) :: .colon :: value.tokens
  | .more label _ value others =>
      .text (Stroke.text label.strokes) :: .colon :: (value.tokens ++ .comma :: others.tokens)

end

/-- What stands behind some characters is cut on its own, if it stops a number. -/
def Cut (chars : List Char) (found : List Token) : Prop :=
  ∀ rest, Stops rest → tokens (chars.map .char ++ rest) = found ++ tokens rest

namespace Cut

variable {part others : List Char} {found more : List Token}

/-- Blanks are cut into nothing. -/
theorem blanks (inside : List Blank) : Cut (inside.map Blank.char) [] :=
  fun rest _ => tokens_blanks inside rest

/-- A part with its blanks has the tokens of the part. -/
theorem around (cut : Cut part found) (margins : Margins) : Cut (margins.around part) found := by
  intro rest stops
  rw [Margins.around, List.map_append, List.map_append, List.append_assoc, List.append_assoc,
    tokens_blanks, cut _ (stops_blanks margins.after stops), tokens_blanks]

/-- A mark behind a part stops it. -/
theorem before_mark {c : Char} (cut : Cut part found) (mark : (c, token) ∈ markTokens)
    (behind : Cut others more) : Cut (part ++ c :: others) (found ++ token :: more) := by
  intro rest stops
  rw [List.map_append, List.append_assoc, List.map_cons, List.cons_append,
    cut _ (stops_mark mark _), tokens_mark mark, behind rest stops, List.append_assoc,
    List.cons_append]

theorem nil : Cut [] [] := fun _ _ => rfl

/-- A part between two marks. -/
theorem between {first last : Char} {opening closing : Token} (cut : Cut part found)
    (opens : (first, opening) ∈ markTokens) (closes : (last, closing) ∈ markTokens) :
    Cut (first :: (part ++ [last])) (opening :: (found ++ [closing])) :=
  nil.before_mark opens (cut.before_mark closes nil)

/-- A name is a text and a colon. -/
theorem label (label : Label) (cut : Cut part found) :
    Cut (label.chars ++ part) (.text (Stroke.text label.strokes) :: .colon :: found) := by
  have quoted : Cut (Stroke.quoted label.strokes) [.text (Stroke.text label.strokes)] :=
    fun rest _ => tokens_quoted label.strokes rest
  have colon : (':', Token.colon) ∈ markTokens := by decide
  rw [Label.chars, List.append_assoc]
  exact (quoted.around label.margins).before_mark colon cut

end Cut

mutual

/-- The characters of a value have its tokens. -/
theorem Script.cut : (script : Script) → Cut script.chars script.tokens
  | .null | .bool true | .bool false => fun _ _ => tokens_of_firstToken rfl rfl
  | .number number => fun _ stops => tokens_number number stops
  | .text strokes => fun rest _ => tokens_quoted strokes rest
  | .hollow .array inside => (Cut.blanks inside).between (by decide) (by decide)
  | .hollow .object inside => (Cut.blanks inside).between (by decide) (by decide)
  | .array items => items.cut.between (by decide) (by decide)
  | .object entries => entries.cut.between (by decide) (by decide)

/-- Items are cut into their tokens, with commas between. -/
theorem Items.cut : (items : Items) → Cut items.chars items.tokens
  | .last margins item => item.cut.around margins
  | .more margins item others => (item.cut.around margins).before_mark (by decide) others.cut

/-- Members are cut into their tokens, with commas between. -/
theorem Entries.cut : (entries : Entries) → Cut entries.chars entries.tokens
  | .last label margins value => (value.cut.around margins).label label
  | .more label margins value others =>
      ((value.cut.around margins).before_mark (by decide) others.cut).label label

end

/-- The tokens of a text are those of its value. -/
theorem Page.tokens_chars (page : Page) : tokens (page.chars.map .char) = page.script.tokens := by
  have cut := page.script.cut.around page.margins [] (Apart.nil _)
  rwa [List.append_nil, tokens_nil, List.append_nil] at cut

end AffinityPool.Json
