/-
Module: AffinityPool.Proofs.Json.LineEnds
Purpose: How the lines of a JSON text end makes no difference to what is read.
Main exports:
  Json.Spot, Json.spotAfter, Json.LineBlind, Json.LineBlind.read_unifyLineEnds, Json.lineBlind_read
-/
import AffinityPool.Proofs.Json.Token
import AffinityPool.Settings.File

namespace AffinityPool.Json

open Text (Letter)

/-!
Outside of texts carriage returns and line feeds are blanks, and inside of them they may not stand
at all.  That is what a reader is asked for, and from it line ends can be unified one after the
other.  The reader in use is seen to be such a reader: none of its tokens goes on at a control
character, so what stands in front of one is cut in the same way whichever it is and whatever stands
behind it.
-/

/-! ### Inside and outside of texts -/

/-- Where the end of some letters is: outside of texts, inside of one, or inside and behind a
backslash. -/
inductive Spot where
  | outside
  | inside
  | escaped
deriving Repr, DecidableEq

/-- Where one is behind a letter. -/
def Spot.next (spot : Spot) (letter : Letter) : Spot :=
  match spot with
  | .outside => if letter = .char '"' then .inside else .outside
  | .inside =>
      if letter = .char '"' then .outside
      else if letter = .char '\\' then .escaped
      else .inside
  | .escaped => .inside

/-- Where one is behind some letters. -/
def spotAfter (letters : List Letter) : Spot := letters.foldl Spot.next .outside

/-! ### Readers that do not see how lines end -/

/-- A reader to whom both line ends are blanks alike, and who refuses control characters inside of
texts. -/
structure LineBlind {α : Type} (read : List Char → Option α) : Prop where
  /-- Outside of texts a carriage return is as good as a line feed. -/
  alike : ∀ {before after : List Char}, spotAfter (before.map .char) = .outside →
    read (before ++ '\r' :: after) = read (before ++ '\n' :: after)
  /-- Outside of texts two line feeds are as good as one. -/
  merged : ∀ {before after : List Char}, spotAfter (before.map .char) = .outside →
    read (before ++ '\n' :: '\n' :: after) = read (before ++ '\n' :: after)
  /-- No control character may stand inside of a text. -/
  control : ∀ {before after : List Char} {c : Char}, spotAfter (before.map .char) ≠ .outside →
    c.toNat < 0x20 → read (before ++ c :: after) = none

namespace LineBlind

variable {α : Type} {read : List Char → Option α}

/-- Line ends can be unified behind whatever stands in front. -/
theorem read_append_unifyLineEnds (blind : LineBlind read) (before chars : List Char) :
    read (before ++ unifyLineEnds chars) = read (before ++ chars) := by
  have onward : ∀ c rest, read (before ++ c :: unifyLineEnds rest) =
      read ((before ++ [c]) ++ unifyLineEnds rest) := by simp
  induction chars using unifyLineEnds.induct generalizing before with
  | case1 => rfl
  | case2 rest ih =>
      rw [unifyLineEnds]
      by_cases spot : spotAfter (before.map .char) = .outside
      · rw [blind.alike spot, blind.merged spot, onward, ih _ (by simp)]
        simp
      · rw [blind.control spot (by decide), blind.control spot (by decide)]
  | case3 c rest apart ih =>
      rw [unifyLineEnds.eq_3 _ _ apart]
      by_cases start : c = '\r'
      · subst start
        rw [if_pos rfl]
        by_cases spot : spotAfter (before.map .char) = .outside
        · rw [blind.alike spot, onward, ih _ (by simp)]
          simp
        · rw [blind.control spot (by decide), blind.control spot (by decide)]
      · rw [if_neg start, onward, ih _ (by simp)]
        simp

/-- A text is read in the same way however its lines end. -/
theorem read_unifyLineEnds (blind : LineBlind read) (chars : List Char) :
    read (unifyLineEnds chars) = read chars := blind.read_append_unifyLineEnds [] chars

end LineBlind

/-! ### Tokens end in front of control characters -/

/-- Whether a letter is a control character. -/
def isControl : Letter → Bool
  | .char c => c.toNat < 0x20
  | .half _ => false

/-- A reader of what letters start with.  It looks no further than the next control character, and
what it takes neither opens nor closes a text. -/
structure Local {α : Type} (read : List Letter → Option (α × List Letter)) : Prop where
  append : ∀ (letters : List Letter) {control : Letter} (after : List Letter),
    isControl control = true → read (letters ++ control :: after) =
      (read letters).map fun found => (found.1, found.2 ++ control :: after)
  spares : ∀ {letters : List Letter} {a : α} {left : List Letter}, read letters = some (a, left) →
    ∃ front, letters = front ++ left ∧ .char '"' ∉ front

namespace Local

variable {α β : Type} {read : List Letter → Option (α × List Letter)}

/-- One reader behind another one. -/
theorem bind {next : α → List Letter → Option (β × List Letter)} (first : Local read)
    (second : ∀ a, Local (next a)) :
    Local fun letters => (read letters).bind fun found => next found.1 found.2 where
  append := by
    intro letters control after isControl
    simp only [first.append letters after isControl]
    cases read letters with
    | none => rfl
    | some found => exact (second found.1).append found.2 after isControl
  spares := by
    intro letters b left reads
    obtain ⟨⟨a, middle⟩, one, two⟩ := Option.bind_eq_some_iff.mp reads
    obtain ⟨front, rfl, plain⟩ := first.spares one
    obtain ⟨further, rfl, bare⟩ := (second a).spares two
    exact ⟨front ++ further, by simp, by simp [plain, bare]⟩

/-- A reader that makes something else of what it reads. -/
theorem map (first : Local read) (make : α → β) :
    Local fun letters => (read letters).map fun found => (make found.1, found.2) where
  append := by
    intro letters control after isControl
    simp only [first.append letters after isControl, Option.map_map]
    rfl
  spares := by
    intro letters b left reads
    obtain ⟨⟨a, middle⟩, one, same⟩ := Option.map_eq_some_iff.mp reads
    cases same
    exact first.spares one

end Local

variable {letters after rest : List Letter} {letter control : Letter}

/-- A control character is none of the letters that tokens are made of. -/
theorem ne_of_isControl {c : Char} (isControl : isControl control = true)
    (printed : 0x20 ≤ c.toNat) : control ≠ .char c := by
  rintro rfl
  exact Nat.not_lt.mpr printed (of_decide_eq_true isControl)

/-- Control characters are no digits. -/
theorem not_isNumeralDigit_of_isControl (isControl : isControl control = true) :
    isNumeralDigit control = false := by
  cases control with
  | half unit => rfl
  | char c =>
      have low : c.toNat < 0x20 := of_decide_eq_true isControl
      simp only [isNumeralDigit, Bool.and_eq_false_iff, decide_eq_false_iff_not, Char.le_def,
        UInt32.le_iff_toNat_le]
      exact Or.inl (Nat.not_le.mpr (Nat.lt_of_lt_of_le low (by decide)))

/-- What does not start with a letter does not start with it when a control character follows. -/
theorem append_ne_cons {c : Char} (isControl : isControl control = true) (printed : 0x20 ≤ c.toNat)
    (apart : ∀ rest, letters ≠ .char c :: rest) (after rest : List Letter) :
    letters ++ control :: after ≠ .char c :: rest := by
  cases letters with
  | nil =>
      intro same
      exact ne_of_isControl isControl printed (List.cons.inj same).1
  | cons letter others =>
      intro same
      exact apart others (congrArg (· :: others) (List.cons.inj same).1)

/-! ### Numbers -/

/-- Digits are not taken beyond a control character. -/
theorem digitsOf_control (letters after : List Letter) (isControl : isControl control = true) :
    digitsOf (letters ++ control :: after) =
      ((digitsOf letters).1, (digitsOf letters).2 ++ control :: after) := by
  have stops := not_isNumeralDigit_of_isControl isControl
  induction letters with
  | nil => simp [digitsOf, stops]
  | cons letter rest ih =>
      by_cases digit : isNumeralDigit letter = true
      · simp only [digitsOf, List.cons_append, List.takeWhile_cons, List.dropWhile_cons, digit,
          if_true, Prod.mk.injEq] at ih ⊢
        exact ⟨by rw [List.filterMap_cons, List.filterMap_cons, ih.1], ih.2⟩
      · simp [digitsOf, digit]

/-- There is no quotation mark among digits. -/
theorem digitsOf_spares (letters : List Letter) :
    ∃ front, letters = front ++ (digitsOf letters).2 ∧ .char '"' ∉ front := by
  refine ⟨letters.takeWhile isNumeralDigit, List.takeWhile_append_dropWhile.symm, ?_⟩
  intro member
  cases List.all_eq_true.mp List.all_takeWhile _ member

/-- The whole part of a number ends in front of a control character. -/
theorem local_wholePart? : Local wholePart? where
  append := by
    intro letters control after isControl
    by_cases zero : ∃ rest, letters = .char '0' :: rest
    · obtain ⟨rest, rfl⟩ := zero
      rfl
    · rw [not_exists] at zero
      rw [wholePart?.eq_2 _ zero,
        wholePart?.eq_2 _ (append_ne_cons isControl (by decide) zero after),
        digitsOf_control letters after isControl]
      cases digitsOf letters with
      | mk digits left => cases digits <;> rfl
  spares := by
    intro letters digits left reads
    unfold wholePart? at reads
    split at reads
    · cases reads
      exact ⟨[.char '0'], rfl, by decide⟩
    · have spared := digitsOf_spares letters
      cases found : digitsOf letters with
      | mk taken behind =>
          rw [found] at reads spared
          cases taken with
          | nil => cases reads
          | cons c taken =>
              cases reads
              exact spared

/-- So does its fraction, if it has one. -/
theorem local_fractionPart : Local fun letters => some (fractionPart letters) where
  append := by
    intro letters control after isControl
    by_cases point : ∃ rest, letters = .char '.' :: rest
    · obtain ⟨rest, rfl⟩ := point
      rw [List.cons_append, fractionPart, fractionPart, digitsOf_control rest after isControl]
      cases digitsOf rest with
      | mk digits left => cases digits <;> rfl
    · rw [not_exists] at point
      rw [fractionPart.eq_2 _ point,
        fractionPart.eq_2 _ (append_ne_cons isControl (by decide) point after)]
      rfl
  spares := by
    intro letters fraction left reads
    obtain rfl : (fractionPart letters).2 = left := congrArg Prod.snd (Option.some.inj reads)
    unfold fractionPart
    split
    · rename_i rest
      split
      · exact ⟨[], rfl, by simp⟩
      · rename_i found
        obtain ⟨front, split, plain⟩ := digitsOf_spares rest
        rw [found] at split
        exact ⟨.char '.' :: front, by rw [split]; rfl, by simp [plain]⟩
    · exact ⟨[], rfl, by simp⟩

/-- The sign of an exponent is not looked for beyond a control character. -/
theorem exponentSign_control (letters after : List Letter) (isControl : isControl control = true) :
    exponentSign (letters ++ control :: after) =
      ((exponentSign letters).1, (exponentSign letters).2 ++ control :: after) := by
  by_cases plus : ∃ rest, letters = .char '+' :: rest
  · obtain ⟨rest, rfl⟩ := plus
    rfl
  · by_cases minus : ∃ rest, letters = .char '-' :: rest
    · obtain ⟨rest, rfl⟩ := minus
      rfl
    · rw [not_exists] at plus minus
      rw [exponentSign.eq_3 _ plus minus,
        exponentSign.eq_3 _ (append_ne_cons isControl (by decide) plus after)
          (append_ne_cons isControl (by decide) minus after)]

theorem exponentSign_spares (letters : List Letter) :
    ∃ front, letters = front ++ (exponentSign letters).2 ∧ .char '"' ∉ front := by
  unfold exponentSign
  split
  · exact ⟨[.char '+'], rfl, by decide⟩
  · exact ⟨[.char '-'], rfl, by decide⟩
  · exact ⟨[], rfl, by simp⟩

/-- An exponent ends in front of a control character. -/
theorem local_exponentPart : Local fun letters => some (exponentPart letters) where
  append := by
    intro letters control after isControl
    have silent : ∀ rest, exponentPart (control :: rest) = (none, control :: rest) := by
      intro rest
      cases control with
      | half unit => rfl
      | char c =>
          have mark : ¬(c = 'e' ∨ c = 'E') := by
            rintro (rfl | rfl) <;> cases isControl
          rw [exponentPart, if_neg mark]
    cases letters with
    | nil =>
        rw [List.nil_append, silent]
        rfl
    | cons letter rest =>
        cases letter with
        | half unit => rfl
        | char c =>
            by_cases mark : c = 'e' ∨ c = 'E'
            · rw [List.cons_append, exponentPart, exponentPart, if_pos mark, if_pos mark]
              simp only [exponentSign_control rest after isControl,
                digitsOf_control _ after isControl]
              cases digitsOf (exponentSign rest).2 with
              | mk digits left => cases digits <;> rfl
            · rw [List.cons_append, exponentPart, exponentPart, if_neg mark, if_neg mark]
              rfl
  spares := by
    intro letters exponent left reads
    obtain rfl : (exponentPart letters).2 = left := congrArg Prod.snd (Option.some.inj reads)
    have whole : ∃ front, letters = front ++ letters ∧ .char '"' ∉ front := ⟨[], rfl, by simp⟩
    unfold exponentPart
    split
    · rename_i c rest
      split
      · rename_i mark
        simp only
        split
        · exact whole
        · rename_i found
          obtain ⟨signed, one, bare⟩ := exponentSign_spares rest
          obtain ⟨front, two, plain⟩ := digitsOf_spares (exponentSign rest).2
          rw [found] at two
          refine ⟨.char c :: (signed ++ front), ?_, ?_⟩
          · rw [List.cons_append, List.append_assoc, ← two, ← one]
          · rcases mark with rfl | rfl <;> simp [bare, plain]
      · exact whole
    · exact whole

/-- A numeral is made of such parts one behind the other. -/
theorem local_numeral? (negative : Bool) : Local (numeral? negative) := by
  have parts := local_wholePart?.bind fun whole => local_fractionPart.bind fun fraction =>
    local_exponentPart.map fun exponent => Numeral.mk negative whole fraction exponent
  refine (funext fun letters => ?_ : numeral? negative = _) ▸ parts
  unfold numeral?
  cases wholePart? letters <;> rfl

/-- A number ends in front of a control character, with a minus sign or without. -/
theorem local_number? : Local number? where
  append := by
    intro letters control after isControl
    by_cases minus : ∃ rest, letters = .char '-' :: rest
    · obtain ⟨rest, rfl⟩ := minus
      rw [List.cons_append, number?_minus, number?_minus]
      exact ((local_numeral? true).map Token.number).append rest after isControl
    · rw [not_exists] at minus
      rw [number?_of_ne minus,
        number?_of_ne (append_ne_cons isControl (by decide) minus after)]
      exact ((local_numeral? false).map Token.number).append letters after isControl
  spares := by
    intro letters token left reads
    by_cases minus : ∃ rest, letters = .char '-' :: rest
    · obtain ⟨rest, rfl⟩ := minus
      obtain ⟨front, rfl, plain⟩ := ((local_numeral? true).map Token.number).spares reads
      exact ⟨.char '-' :: front, rfl, by simp [plain]⟩
    · rw [not_exists] at minus
      rw [number?_of_ne minus] at reads
      exact ((local_numeral? false).map Token.number).spares reads

/-! ### Words -/

/-- Letters that a control character is not among stand in front of it, or not at all. -/
theorem append_eq_append_iff {front : List Letter} (bare : control ∉ front) :
    letters ++ control :: after = front ++ rest ↔
      ∃ left, letters = front ++ left ∧ rest = left ++ control :: after := by
  constructor
  · intro same
    rcases List.append_eq_append_iff.mp same with ⟨gap, split, more⟩ | ⟨gap, split, more⟩
    · cases gap with
      | nil => exact ⟨[], by simpa using split.symm, by simpa using more.symm⟩
      | cons letter gap =>
          obtain rfl : control = letter := (List.cons.inj more).1
          exact absurd (split ▸ by simp) bare
    · exact ⟨gap, split, more⟩
  · rintro ⟨left, rfl, rfl⟩
    simp

/-- A word without control characters and quotation marks is found in front of a control character
or not at all. -/
theorem local_dropWord? {word : String} (printed : ∀ c ∈ word.toList, 0x20 ≤ c.toNat ∧ c ≠ '"')
    (token : Token) : Local fun letters => (dropWord? word letters).map (token, ·) where
  append := by
    intro letters control after isControl
    have bare : control ∉ word.toList.map Letter.char := by
      intro member
      obtain ⟨c, among, rfl⟩ := List.mem_map.mp member
      exact ne_of_isControl isControl (printed c among).1 rfl
    have dropped : dropWord? word (letters ++ control :: after) =
        (dropWord? word letters).map (· ++ control :: after) := by
      refine Option.ext fun rest => ?_
      rw [dropWord?_eq_some_iff, append_eq_append_iff bare, Option.map_eq_some_iff]
      exact exists_congr fun left => and_congr dropWord?_eq_some_iff.symm eq_comm
    simp only [dropped, Option.map_map]
    rfl
  spares := by
    intro letters found left reads
    obtain ⟨rest, dropped, same⟩ := Option.map_eq_some_iff.mp reads
    cases same
    refine ⟨_, dropWord?_eq_some_iff.mp dropped, ?_⟩
    intro member
    obtain ⟨c, among, same⟩ := List.mem_map.mp member
    exact (printed c among).2 (Letter.char.inj same)

/-- So it is with all the words that are tokens. -/
theorem local_word? : Local word? := by
  have printed : ∀ entry ∈ words, ∀ c ∈ entry.1.toList, 0x20 ≤ c.toNat ∧ c ≠ '"' := by
    simp [words]
  unfold word?
  generalize words = table at printed
  induction table with
  | nil => exact ⟨fun _ _ _ _ => rfl, nofun⟩
  | cons entry others ih =>
      obtain ⟨printedFirst, printedOthers⟩ := List.forall_mem_cons.mp printed
      have first := local_dropWord? printedFirst entry.2
      have later := ih printedOthers
      constructor
      · intro letters control after isControl
        simp only [List.findSome?_cons, first.append letters after isControl]
        cases dropWord? entry.1 letters with
        | none => exact later.append letters after isControl
        | some left => rfl
      · intro letters token left reads
        rw [List.findSome?_cons] at reads
        split at reads
        · rename_i found
          exact first.spares (found.trans reads)
        · exact later.spares reads

/-- Two readers, the second of which is asked only if the first one reads nothing. -/
theorem Local.or {α : Type} {read other : List Letter → Option (α × List Letter)}
    (first : Local read) (second : Local other) :
    Local fun letters => (read letters).or (other letters) where
  append := by
    intro letters control after isControl
    simp only [first.append letters after isControl, second.append letters after isControl,
      Option.map_or]
  spares := by
    intro letters a left reads
    rcases Option.or_eq_some_iff.mp reads with one | ⟨-, two⟩
    · exact first.spares one
    · exact second.spares two

/-! ### Bodies of texts -/

/-- A digit of a code is no control character, and no mark that means something in a text. -/
theorem not_isControl_of_hexValue? {c : Char} {value : Nat} (reads : hexValue? c = some value) :
    isControl (.char c) = false ∧ c ≠ '"' ∧ c ≠ '\\' := by
  refine ⟨?_, ?_, ?_⟩
  · refine Bool.eq_false_iff.mpr fun low => ?_
    have few : c.toNat < 0x20 := of_decide_eq_true low
    have table : ∀ n < 0x20, hexValue? (Char.ofNat n) = none := by decide
    have unread := table _ few
    rw [Char.ofNat_toNat, reads] at unread
    cases unread
  · rintro rfl
    cases reads
  · rintro rfl
    cases reads

/-- No control character is escaped by itself. -/
theorem not_isControl_of_shortEscape? {c meant : Char} (reads : shortEscape? c = some meant) :
    isControl (.char c) = false := by
  refine Bool.eq_false_iff.mpr fun low => ?_
  have few : c.toNat < 0x20 := of_decide_eq_true low
  have table : ∀ n < 0x20, shortEscape? (Char.ofNat n) = none := by decide
  have unread := table _ few
  rw [Char.ofNat_toNat, reads] at unread
  cases unread

/-- No control character stands for itself in a text. -/
theorem not_isControl_of_standsAlone (stands : standsAlone letter = true) :
    isControl letter = false := by
  cases letter with
  | half unit => rfl
  | char c =>
      simp only [standsAlone, Bool.and_eq_true, decide_eq_true_eq] at stands
      simpa [isControl] using stands.2

/-- The digits of a code are in hexadecimal, so they are neither control characters nor marks. -/
theorem digits_of_codeUnit? {a b c d : Char} {unit : Nat} (reads : codeUnit? a b c d = some unit) :
    ∀ digit ∈ [a, b, c, d], isControl (.char digit) = false ∧ digit ≠ '"' ∧ digit ≠ '\\' := by
  obtain ⟨_, first, reads⟩ := Option.bind_eq_some_iff.mp reads
  obtain ⟨_, second, reads⟩ := Option.bind_eq_some_iff.mp reads
  obtain ⟨_, third, reads⟩ := Option.bind_eq_some_iff.mp reads
  obtain ⟨_, fourth, -⟩ := Option.bind_eq_some_iff.mp reads
  simp only [List.forall_mem_cons]
  exact ⟨not_isControl_of_hexValue? first, not_isControl_of_hexValue? second,
    not_isControl_of_hexValue? third, not_isControl_of_hexValue? fourth, by simp⟩

/-- A body stands wherever its letters do. -/
theorem Body.append {body : List Written} (stands : Body letters body after) (tail : List Letter) :
    Body (letters ++ tail) body (after ++ tail) := by
  induction stands with
  | close rest => exact .close _
  | coded reads behind ih => exact .coded reads ih
  | escaped reads behind ih => exact .escaped reads ih
  | alone stands inner behind ih => exact .alone stands inner ih

/-- A body leads out of the text that it is the body of. -/
theorem Body.spot {body : List Written} (stands : Body letters body after) :
    letters.foldl Spot.next .inside = spotAfter after := by
  induction stands with
  | close rest => rfl
  | coded reads behind ih =>
      have plain := digits_of_codeUnit? reads
      simp only [List.forall_mem_cons] at plain
      obtain ⟨⟨-, a, a'⟩, ⟨-, b, b'⟩, ⟨-, c, c'⟩, ⟨-, d, d'⟩, -⟩ := plain
      simpa [Spot.next, a, a', b, b', c, c', d, d'] using ih
  | escaped reads behind ih => simpa [Spot.next] using ih
  | @alone letter _ _ _ stands inner behind ih =>
      have bare : letter ≠ .char '\\' := by
        rintro rfl
        cases stands
      simpa [Spot.next, inner, bare] using ih

/-- There is no body that a control character belongs to. -/
theorem exists_body_of_append {body : List Written} {behind : List Letter}
    (isControl : isControl control = true)
    (stands : Body (letters ++ control :: after) body behind) :
    ∃ left, Body letters body left := by
  have bare : ∀ {front : List Letter}, (∀ letter ∈ front, Json.isControl letter = false) →
      control ∉ front := by
    intro front plain member
    cases (plain control member).symm.trans isControl
  generalize whole : letters ++ control :: after = others at stands
  induction stands generalizing letters with
  | close rest =>
      obtain ⟨left, rfl, -⟩ := (append_eq_append_iff (bare (by decide))).mp
        (show letters ++ control :: after = [.char '"'] ++ rest from whole)
      exact ⟨left, .close left⟩
  | @coded a b c d _ rest _ _ reads behind ih =>
      have digits := digits_of_codeUnit? reads
      simp only [List.forall_mem_cons] at digits
      obtain ⟨one, two, three, four, -⟩ := digits
      obtain ⟨left, rfl, inner⟩ := (append_eq_append_iff (bare (by
          simpa using ⟨rfl, rfl, one.1, two.1, three.1, four.1⟩))).mp
        (show letters ++ control :: after =
          [.char '\\', .char 'u', .char a, .char b, .char c, .char d] ++ rest from whole)
      obtain ⟨last, found⟩ := ih inner.symm
      exact ⟨last, .coded reads found⟩
  | @escaped c _ rest _ _ reads behind ih =>
      obtain ⟨left, rfl, inner⟩ := (append_eq_append_iff (bare (by
          simpa using ⟨rfl, not_isControl_of_shortEscape? reads⟩))).mp
        (show letters ++ control :: after = [.char '\\', .char c] ++ rest from whole)
      obtain ⟨last, found⟩ := ih inner.symm
      exact ⟨last, .escaped reads found⟩
  | @alone letter rest _ _ stands inner behind ih =>
      obtain ⟨left, rfl, inner'⟩ := (append_eq_append_iff (bare (by
          simpa using not_isControl_of_standsAlone stands))).mp
        (show letters ++ control :: after = [letter] ++ rest from whole)
      obtain ⟨last, found⟩ := ih inner'.symm
      exact ⟨last, .alone stands inner found⟩

/-! ### Tokens -/

/-- Letters without quotation marks lead nowhere else when they start outside of texts. -/
theorem spotAfter_append_of_notMem {front : List Letter} (plain : .char '"' ∉ front)
    (left : List Letter) : spotAfter (front ++ left) = spotAfter left := by
  induction front with
  | nil => rfl
  | cons letter front ih =>
      simp only [List.mem_cons, not_or] at plain
      rw [List.cons_append, spotAfter, List.foldl_cons, Spot.next, if_neg (Ne.symm plain.1)]
      exact ih plain.2

/-- What the first token of some letters is when a control character stands behind them: the same
whichever that is, and what is left of the letters is outside of texts if they are; or there is no
token. -/
theorem firstToken_append (letter : Letter) (rest : List Letter) :
    (∃ token left, left.length ≤ rest.length ∧ spotAfter (letter :: rest) = spotAfter left ∧
      ∀ control after, isControl control = true →
        firstToken (letter :: (rest ++ control :: after)) = (token, left ++ control :: after)) ∨
      ∀ control after, isControl control = true →
        firstToken (letter :: (rest ++ control :: after)) = (.invalid, []) := by
  by_cases mark : letter ∈ marks
  · simp only [marks, List.map_cons, List.map_nil, List.mem_cons, List.not_mem_nil,
      or_false] at mark
    rcases mark with rfl | rfl | rfl | rfl | rfl | rfl | rfl
    case inr.inr.inr.inr.inr.inr =>
      cases found : bodyOf? rest with
      | some read =>
          have stands := bodyOf?_eq_some_iff.mp found
          refine Or.inl ⟨.text ⟨joinPairs read.1⟩, read.2, Nat.le_of_lt stands.length_lt,
            stands.spot, ?_⟩
          intro control after isControl
          rw [firstToken.eq_7, bodyOf?_eq_some_iff.mpr (stands.append (control :: after))]
      | none =>
          refine Or.inr ?_
          intro control after isControl
          have none : bodyOf? (rest ++ control :: after) = none := by
            refine Option.eq_none_iff_forall_not_mem.mpr fun read stands => ?_
            obtain ⟨left, whole⟩ :=
              exists_body_of_append isControl (bodyOf?_eq_some_iff.mp stands)
            cases (bodyOf?_eq_some_iff.mpr whole).symm.trans found
          rw [firstToken.eq_7, none]
    all_goals exact Or.inl ⟨_, rest, Nat.le_refl _, rfl, fun _ _ _ => rfl⟩
  · have reader := local_word?.or local_number?
    have whole : ∀ control after, isControl control = true →
        firstToken (letter :: (rest ++ control :: after)) =
          (((word? (letter :: rest)).or (number? (letter :: rest))).map fun found =>
            (found.1, found.2 ++ control :: after)).getD (.invalid, []) := by
      intro control after isControl
      rw [firstToken_of_notMem_marks mark]
      exact congrArg (Option.getD · (.invalid, [])) (reader.append (letter :: rest) after isControl)
    cases found : (word? (letter :: rest)).or (number? (letter :: rest)) with
    | none =>
        rw [found] at whole
        exact Or.inr whole
    | some read =>
        rw [found] at whole
        obtain ⟨front, split, plain⟩ := reader.spares found
        refine Or.inl ⟨read.1, read.2, ?_, ?_, whole⟩
        · rcases Option.or_eq_some_iff.mp found with word | ⟨-, number⟩
          · exact Nat.le_of_lt_succ (length_word? word)
          · exact Nat.le_of_lt_succ (length_number? number)
        · rw [split, spotAfter_append_of_notMem plain]

/-- How letters in front of a control character are cut: to the end of them, if they end outside of
texts, or up to something that is no token. -/
theorem tokens_append (before : List Letter) :
    (∃ front, ∀ control after, isControl control = true →
      tokens (before ++ control :: after) = front ++ [.invalid]) ∨
      spotAfter before = .outside ∧ ∃ front, ∀ control after, isControl control = true →
        tokens (before ++ control :: after) = front ++ tokens (control :: after) := by
  induction size : before.length using Nat.strongRecOn generalizing before with
  | ind size ih =>
      subst size
      cases before with
      | nil => exact Or.inr ⟨rfl, [], fun _ _ _ => rfl⟩
      | cons letter rest =>
          cases blank : isSpace letter with
          | true =>
              have spot : spotAfter (letter :: rest) = spotAfter rest := by
                have plain : .char '"' ∉ [letter] := by
                  intro member
                  cases List.mem_singleton.mp member
                  cases blank
                exact spotAfter_append_of_notMem plain rest
              simp only [List.cons_append, tokens_of_isSpace blank, spot]
              exact ih _ (by simp) rest rfl
          | false =>
              rcases firstToken_append letter rest with ⟨token, left, shorter, spot, first⟩ | none
              · have cut : ∀ control after, isControl control = true →
                    tokens (letter :: (rest ++ control :: after)) =
                      token :: tokens (left ++ control :: after) := by
                  intro control after isControl
                  rw [tokens_of_not_isSpace blank, first control after isControl]
                rcases ih _ (Nat.lt_succ_of_le shorter) left rfl with
                  ⟨front, broken⟩ | ⟨outside, front, whole⟩
                · refine Or.inl ⟨token :: front, fun control after isControl => ?_⟩
                  rw [List.cons_append, cut control after isControl,
                    broken control after isControl, List.cons_append]
                · refine Or.inr ⟨spot.trans outside, token :: front, ?_⟩
                  intro control after isControl
                  rw [List.cons_append, cut control after isControl,
                    whole control after isControl, List.cons_append]
              · refine Or.inl ⟨[], fun control after isControl => ?_⟩
                rw [List.cons_append, tokens_of_not_isSpace blank, none control after isControl]
                rfl

/-! ### Documents have valid tokens only -/

/-- Tokens up to some that are left, none of which is invalid. -/
def Consumes (toks rest : List Token) : Prop := ∃ front, toks = front ++ rest ∧ .invalid ∉ front

namespace Consumes

variable {toks middle rest : List Token} {token : Token}

theorem refl (rest : List Token) : Consumes rest rest := ⟨[], rfl, by simp⟩

theorem trans (first : Consumes toks middle) (second : Consumes middle rest) :
    Consumes toks rest := by
  obtain ⟨front, rfl, valid⟩ := first
  obtain ⟨further, rfl, sound⟩ := second
  exact ⟨front ++ further, by simp, by simp [valid, sound]⟩

theorem cons (valid : token ≠ .invalid) (consumes : Consumes toks rest) :
    Consumes (token :: toks) rest := by
  obtain ⟨front, rfl, sound⟩ := consumes
  exact ⟨token :: front, rfl, by simp [sound, valid.symm]⟩

end Consumes

theorem bind_eq_ok_iff {ε α β : Type} {first : Except ε α} {next : α → Except ε β} {b : β} :
    first >>= next = .ok b ↔ ∃ a, first = .ok a ∧ next a = .ok b := by
  cases first <;> simp [bind, Except.bind]

/-- A reader of tokens that takes valid ones only. -/
def TakesValid {α : Type} (read : List Token → Except ReadError (α × List Token)) : Prop :=
  ∀ toks a rest, read toks = .ok (a, rest) → Consumes toks rest

section Steps

variable {dialect : Dialect} {fuel : Nat}

/-- A value takes valid tokens if what stands in it does. -/
theorem readValue_takesValid (items : ∀ depth, TakesValid (readItems dialect fuel depth))
    (members : ∀ depth held, TakesValid (readMembers dialect fuel depth held)) (depth : Nat) :
    TakesValid (readValue dialect (fuel + 1) depth) := by
  intro toks value rest read
  unfold readValue at read
  split at read
  · cases read
    exact .cons (by simp) (.refl _)
  · cases read
    exact .cons (by simp) (.refl _)
  · cases read
    exact .cons (by simp) (.refl _)
  · cases read
    exact .cons (by simp) (.refl _)
  · obtain ⟨number, -, same⟩ := bind_eq_ok_iff.mp read
    cases same
    exact .cons (by simp) (.refl _)
  · split at read
    · cases read
      exact .cons (by simp) (.refl _)
    · cases read
  · obtain ⟨-, -, same⟩ := bind_eq_ok_iff.mp read
    cases same
    exact .cons (by simp) (.cons (by simp) (.refl _))
  · obtain ⟨inner, -, read⟩ := bind_eq_ok_iff.mp read
    obtain ⟨⟨found, left⟩, inside, same⟩ := bind_eq_ok_iff.mp read
    cases same
    exact .cons (by simp) (items _ _ _ _ inside)
  · obtain ⟨-, -, same⟩ := bind_eq_ok_iff.mp read
    cases same
    exact .cons (by simp) (.cons (by simp) (.refl _))
  · obtain ⟨inner, -, read⟩ := bind_eq_ok_iff.mp read
    obtain ⟨⟨found, left⟩, inside, same⟩ := bind_eq_ok_iff.mp read
    cases same
    exact .cons (by simp) (members _ _ _ _ _ inside)
  · cases read

/-- Items take valid tokens if one of them and those behind it do. -/
theorem readItems_takesValid (values : ∀ depth, TakesValid (readValue dialect fuel depth))
    (items : ∀ depth, TakesValid (readItems dialect fuel depth)) (depth : Nat) :
    TakesValid (readItems dialect (fuel + 1) depth) := by
  intro toks found rest read
  unfold readItems at read
  obtain ⟨⟨item, left⟩, first, read⟩ := bind_eq_ok_iff.mp read
  have taken := values _ _ _ _ first
  dsimp only at read
  split at read
  · obtain ⟨⟨others, behind⟩, later, same⟩ := bind_eq_ok_iff.mp read
    cases same
    exact taken.trans (.cons (by simp) (items _ _ _ _ later))
  · cases read
    exact taken.trans (.cons (by simp) (.refl _))
  · cases read

/-- Members take valid tokens if the value of one and those behind it do. -/
theorem readMembers_takesValid (values : ∀ depth, TakesValid (readValue dialect fuel depth))
    (members : ∀ depth held, TakesValid (readMembers dialect fuel depth held)) (depth : Nat)
    (held : Members) : TakesValid (readMembers dialect (fuel + 1) depth held) := by
  intro toks made rest read
  unfold readMembers at read
  split at read
  · split at read
    · obtain ⟨⟨value, left⟩, first, read⟩ := bind_eq_ok_iff.mp read
      have taken : Consumes (.colon :: _) left := .cons (by simp) (values _ _ _ _ first)
      dsimp only at read
      split at read
      · exact .cons (by simp) (taken.trans (.cons (by simp) (members _ _ _ _ _ read)))
      · cases read
        exact .cons (by simp) (taken.trans (.cons (by simp) (.refl _)))
      · cases read
    · cases read
  · cases read

end Steps

/-- Whatever is read of a document, the tokens that it takes are valid. -/
theorem takesValid (dialect : Dialect) (fuel : Nat) :
    (∀ depth, TakesValid (readValue dialect fuel depth)) ∧
      (∀ depth, TakesValid (readItems dialect fuel depth)) ∧
      ∀ depth held, TakesValid (readMembers dialect fuel depth held) := by
  induction fuel with
  | zero =>
      -- Without fuel nothing is read.
      refine ⟨?_, ?_, ?_⟩
      · intro depth toks value rest read
        cases read
      · intro depth toks items rest read
        cases read
      · intro depth held toks members rest read
        cases read
  | succ fuel ih =>
      obtain ⟨values, items, members⟩ := ih
      exact ⟨readValue_takesValid items members, readItems_takesValid values items,
        readMembers_takesValid values members⟩

/-- Something that is no token is in no document. -/
theorem readTokens_of_invalid (dialect : Dialect) (front : List Token) :
    (readTokens dialect (front ++ [.invalid])).toOption = none := by
  cases read : readTokens dialect (front ++ [.invalid]) with
  | error fault => rfl
  | ok document =>
      obtain ⟨⟨value, rest⟩, first, ended⟩ := bind_eq_ok_iff.mp read
      obtain ⟨taken, split, valid⟩ := (takesValid dialect _).1 _ _ _ _ first
      cases rest with
      | nil =>
          rw [List.append_nil] at split
          exact absurd (split ▸ by simp) valid
      | cons token rest => cases ended

/-! ### The reader in use -/

/-- The reader in use does not see how lines end, whatever its dialect. -/
theorem lineBlind_read (dialect : Dialect) :
    LineBlind fun chars => (Json.read dialect chars).toOption := by
  have cut : ∀ {before after : List Char} {c : Char}, tokens ((before ++ c :: after).map .char) =
      tokens (before.map .char ++ .char c :: after.map .char) := by simp
  constructor
  · intro before after outside
    simp only [Json.read, readLetters, cut]
    rcases tokens_append (before.map .char) with ⟨front, broken⟩ | ⟨-, front, whole⟩
    · rw [broken (.char '\r') _ rfl, broken (.char '\n') _ rfl]
    · rw [whole (.char '\r') _ rfl, whole (.char '\n') _ rfl, tokens_of_isSpace rfl,
        tokens_of_isSpace rfl]
  · intro before after outside
    simp only [Json.read, readLetters, cut, List.map_cons]
    rcases tokens_append (before.map .char) with ⟨front, broken⟩ | ⟨-, front, whole⟩
    · rw [broken (.char '\n') _ rfl, broken (.char '\n') _ rfl]
    · rw [whole (.char '\n') _ rfl, whole (.char '\n') _ rfl, tokens_of_isSpace rfl,
        tokens_of_isSpace rfl]
  · intro before after c within low
    have isControl : isControl (.char c) = true := decide_eq_true low
    simp only [Json.read, readLetters, cut]
    rcases tokens_append (before.map .char) with ⟨front, broken⟩ | ⟨outside, -⟩
    · rw [broken (.char c) _ isControl]
      exact readTokens_of_invalid dialect front
    · exact absurd outside within

end AffinityPool.Json
