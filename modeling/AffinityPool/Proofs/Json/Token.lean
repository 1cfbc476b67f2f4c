/-
Module: AffinityPool.Proofs.Json.Token
Purpose: Tokens are cut off the front of a text one after the other.
Main exports:
  Json.length_firstToken, Json.tokens_of_isSpace, Json.tokens_of_not_isSpace
-/
import AffinityPool.Json.Token

namespace AffinityPool.Json

open Text (Letter)

/-!
Every reader of tokens leaves less than it was given, so the tokens of a text are the first one and
then the tokens of what is left.  The proofs read `tokens` through these equations, in which no fuel
is left, and they read bodies of texts through the relation `Body`.
-/

variable {letters after : List Letter} {letter : Letter}

/-! ### Bodies of texts -/

/-- What stands at the start of some letters is the body of a text, and what stands behind its
closing mark. -/
inductive Body : List Letter → List Written → List Letter → Prop where
  | close (rest : List Letter) : Body (.char '"' :: rest) [] rest
  | coded {a b c d : Char} {unit : Nat} {rest : List Letter} {body : List Written}
      {after : List Letter} (reads : codeUnit? a b c d = some unit)
      (behind : Body rest body after) :
      Body (.char '\\' :: .char 'u' :: .char a :: .char b :: .char c :: .char d :: rest)
        (.unit unit :: body) after
  | escaped {c meant : Char} {rest : List Letter} {body : List Written} {after : List Letter}
      (reads : shortEscape? c = some meant) (behind : Body rest body after) :
      Body (.char '\\' :: .char c :: rest) (.letter (.char meant) :: body) after
  | alone {letter : Letter} {rest : List Letter} {body : List Written} {after : List Letter}
      (stands : standsAlone letter = true) (inner : letter ≠ .char '"')
      (behind : Body rest body after) :
      Body (letter :: rest) (.letter letter :: body) after

/-- Reading on behind a letter or an escape. -/
theorem bodyOf?_bind_eq_some {written : Written} {body : List Written} {rest : List Letter}
    (read : (bodyOf? rest).bind (fun found => some (written :: found.1, found.2)) =
      some (body, after)) :
    ∃ inner, bodyOf? rest = some (inner, after) ∧ written :: inner = body := by
  obtain ⟨⟨inner, left⟩, found, same⟩ := Option.bind_eq_some_iff.mp read
  cases same
  exact ⟨inner, found, rfl⟩

/-- What is read as the body of a text is one. -/
theorem body_of_bodyOf? {body : List Written} (read : bodyOf? letters = some (body, after)) :
    Body letters body after := by
  induction letters using bodyOf?.induct generalizing body after with
  | case1 => cases read
  | case2 rest =>
      cases read
      exact .close rest
  | case3 a b c d rest ih =>
      rw [bodyOf?.eq_3] at read
      obtain ⟨unit, reads, read⟩ := Option.bind_eq_some_iff.mp read
      obtain ⟨inner, found, rfl⟩ := bodyOf?_bind_eq_some read
      exact .coded reads (ih found)
  | case4 c rest apart ih =>
      rw [bodyOf?.eq_4 _ _ apart] at read
      obtain ⟨meant, reads, read⟩ := Option.bind_eq_some_iff.mp read
      obtain ⟨inner, found, rfl⟩ := bodyOf?_bind_eq_some read
      exact .escaped reads (ih found)
  | case5 letter rest quote coded escape stands ih =>
      rw [bodyOf?.eq_5 _ _ quote coded escape, if_pos stands] at read
      obtain ⟨inner, found, rfl⟩ := bodyOf?_bind_eq_some read
      exact .alone stands quote (ih found)
  | case6 letter rest quote coded escape control =>
      rw [bodyOf?.eq_5 _ _ quote coded escape, if_neg control] at read
      cases read

/-- The reader finds a body exactly if one stands there. -/
theorem bodyOf?_eq_some_iff {body : List Written} :
    bodyOf? letters = some (body, after) ↔ Body letters body after := by
  refine ⟨body_of_bodyOf?, fun stands => ?_⟩
  induction stands with
  | close rest => rfl
  | coded reads behind ih =>
      rw [bodyOf?.eq_3, reads, ih]
      rfl
  | @escaped c _ _ _ _ reads behind ih =>
      have apart : c ≠ 'u' := by
        rintro rfl
        cases reads
      rw [bodyOf?.eq_4 _ _ fun _ _ _ _ _ _ same => apart same, reads, ih]
      rfl
  | @alone letter _ _ _ stands inner behind ih =>
      have apart : letter ≠ .char '\\' := by
        rintro rfl
        cases stands
      rw [bodyOf?.eq_5 _ _ inner (fun _ _ _ _ _ same _ => apart same)
        (fun _ _ same _ => apart same), if_pos stands, ih]
      rfl

/-! ### What readers leave -/

/-- The body of a text takes letters. -/
theorem Body.length_lt {body : List Written} (stands : Body letters body after) :
    after.length < letters.length := by
  induction stands with
  | close rest => simp
  | coded reads behind ih | escaped reads behind ih | alone stands inner behind ih =>
      simp only [List.length_cons]
      omega

/-- Digits leave no more letters than there were. -/
theorem length_digitsOf (letters : List Letter) : (digitsOf letters).2.length ≤ letters.length :=
  (List.dropWhile_suffix _).length_le

/-- Digits that were found are gone from what is left. -/
theorem length_digitsOf_of_cons {c : Char} {digits : List Char}
    (found : digitsOf letters = (c :: digits, after)) : after.length < letters.length := by
  cases letters with
  | nil => cases found
  | cons letter rest =>
      by_cases digit : isNumeralDigit letter = true
      · have left : (letter :: rest).dropWhile isNumeralDigit = after := congrArg Prod.snd found
        rw [List.dropWhile_cons_of_pos digit] at left
        rw [← left, List.length_cons]
        exact Nat.lt_succ_of_le (List.dropWhile_suffix _).length_le
      · have none : digitsOf (letter :: rest) = ([], letter :: rest) := by simp [digitsOf, digit]
        rw [none] at found
        cases found

/-- A whole part takes letters. -/
theorem length_wholePart? {digits : List Char} (read : wholePart? letters = some (digits, after)) :
    after.length < letters.length := by
  unfold wholePart? at read
  split at read
  · cases read
    simp
  · cases found : digitsOf letters with
    | mk taken left =>
        rw [found] at read
        cases taken with
        | nil => cases read
        | cons c taken =>
            cases read
            exact length_digitsOf_of_cons found

/-- A fraction leaves no more letters than there were. -/
theorem length_fractionPart (letters : List Letter) :
    (fractionPart letters).2.length ≤ letters.length := by
  unfold fractionPart
  split
  · rename_i rest
    have shorter := length_digitsOf rest
    split
    · exact Nat.le_refl _
    · rename_i found
      rw [found] at shorter
      exact Nat.le_succ_of_le shorter
  · exact Nat.le_refl _

theorem length_exponentSign (letters : List Letter) :
    (exponentSign letters).2.length ≤ letters.length := by
  unfold exponentSign
  split <;> simp

/-- An exponent leaves no more letters than there were. -/
theorem length_exponentPart (letters : List Letter) :
    (exponentPart letters).2.length ≤ letters.length := by
  unfold exponentPart
  split
  · rename_i c rest
    have unsigned := length_exponentSign rest
    have shorter := length_digitsOf (exponentSign rest).2
    split
    · simp only
      split
      · exact Nat.le_refl _
      · rename_i found
        rw [found] at shorter
        exact Nat.le_succ_of_le (Nat.le_trans shorter unsigned)
    · exact Nat.le_refl _
  · exact Nat.le_refl _

/-- A number behind its sign is a whole part, and a fraction and an exponent behind it. -/
theorem numeral?_eq_map (negative : Bool) (letters : List Letter) :
    numeral? negative letters = (wholePart? letters).map fun found =>
      ({ negative
         whole := found.1
         fraction := (fractionPart found.2).1
         exponent := (exponentPart (fractionPart found.2).2).1 },
        (exponentPart (fractionPart found.2).2).2) := by
  unfold numeral?
  cases wholePart? letters <;> rfl

/-- A numeral takes letters. -/
theorem length_numeral? {negative : Bool} {numeral : Numeral}
    (read : numeral? negative letters = some (numeral, after)) : after.length < letters.length := by
  rw [numeral?_eq_map] at read
  obtain ⟨⟨whole, rest⟩, found, same⟩ := Option.map_eq_some_iff.mp read
  cases same
  exact Nat.lt_of_le_of_lt (Nat.le_trans (length_exponentPart _) (length_fractionPart _))
    (length_wholePart? found)

/-- Behind a minus sign a negative numeral is read. -/
theorem number?_minus (rest : List Letter) :
    number? (.char '-' :: rest) =
      (numeral? true rest).map fun found => (.number found.1, found.2) := rfl

/-- Without a minus sign a numeral is read that is not negative. -/
theorem number?_of_ne (unsigned : ∀ rest, letters ≠ .char '-' :: rest) :
    number? letters = (numeral? false letters).map fun found => (.number found.1, found.2) := by
  unfold number?
  split
  · exact absurd rfl (unsigned _)
  · rfl

/-- A number takes letters. -/
theorem length_number? {token : Token} (read : number? letters = some (token, after)) :
    after.length < letters.length := by
  unfold number? at read
  obtain ⟨⟨numeral, left⟩, found, same⟩ := Option.map_eq_some_iff.mp read
  cases same
  split at found
  · exact Nat.lt_succ_of_lt (length_numeral? found)
  · exact length_numeral? found

/-- A word can be taken off a text exactly if the text starts with it. -/
theorem dropWord?_eq_some_iff {word : String} :
    dropWord? word letters = some after ↔ letters = word.toList.map .char ++ after := by
  simp only [dropWord?, Option.ite_none_right_eq_some, Option.some.injEq,
    List.isPrefixOf_iff_prefix]
  constructor
  · rintro ⟨⟨rest, rfl⟩, rfl⟩
    rw [List.drop_left]
  · rintro rfl
    exact ⟨List.prefix_append _ _, List.drop_left⟩

/-- A word takes letters. -/
theorem length_dropWord? {word : String} (filled : word.toList ≠ [])
    (read : dropWord? word letters = some after) : after.length < letters.length := by
  have positive := List.length_pos_iff.mpr filled
  rw [dropWord?_eq_some_iff.mp read, List.length_append, List.length_map]
  omega

/-- A word that is a token takes letters. -/
theorem length_word? {token : Token} (read : word? letters = some (token, after)) :
    after.length < letters.length := by
  have filled : ∀ entry ∈ words, entry.1.toList ≠ [] := by decide
  obtain ⟨entry, member, found⟩ := List.exists_of_findSome?_eq_some read
  obtain ⟨left, dropped, same⟩ := Option.map_eq_some_iff.mp found
  cases same
  exact length_dropWord? (filled entry member) dropped

/-- The letters that are a token by themselves or open a text. -/
def marks : List Letter := ['[', ']', '\x7b', '\x7d', ',', ':', '"'].map .char

/-- A text that starts with no mark starts with a word or a number, if with anything. -/
theorem firstToken_of_notMem_marks (plain : letter ∉ marks) (rest : List Letter) :
    firstToken (letter :: rest) =
      ((word? (letter :: rest)).or (number? (letter :: rest))).getD (.invalid, []) := by
  have apart : ∀ mark : Letter, mark ∈ marks →
      ∀ others, letter :: rest = mark :: others → False := by
    intro mark member others same
    exact plain ((List.cons.inj same).1 ▸ member)
  refine firstToken.eq_8 _ ?_ ?_ ?_ ?_ ?_ ?_ ?_ <;> exact apart _ (by decide)

/-- The first token of a text takes a letter at least. -/
theorem length_firstToken (letter : Letter) (rest : List Letter) :
    (firstToken (letter :: rest)).2.length ≤ rest.length := by
  by_cases mark : letter ∈ marks
  · simp only [marks, List.map_cons, List.map_nil, List.mem_cons, List.not_mem_nil,
      or_false] at mark
    rcases mark with rfl | rfl | rfl | rfl | rfl | rfl | rfl
    case inr.inr.inr.inr.inr.inr =>
      rw [firstToken.eq_7]
      cases found : bodyOf? rest with
      | none => exact Nat.zero_le _
      | some read => exact Nat.le_of_lt (bodyOf?_eq_some_iff.mp found).length_lt
    all_goals exact Nat.le_refl _
  · rw [firstToken_of_notMem_marks mark]
    cases found : (word? (letter :: rest)).or (number? (letter :: rest)) with
    | none => exact Nat.zero_le _
    | some read =>
        rcases Option.or_eq_some_iff.mp found with word | ⟨-, number⟩
        · exact Nat.le_of_lt_succ (length_word? word)
        · exact Nat.le_of_lt_succ (length_number? number)

/-! ### Cutting -/

/-- Fuel that is enough is as good as more. -/
theorem tokensUpTo_eq {fuel more : Nat} (enough : letters.length ≤ fuel)
    (plenty : letters.length ≤ more) : tokensUpTo fuel letters = tokensUpTo more letters := by
  induction fuel generalizing letters more with
  | zero =>
      obtain rfl := List.eq_nil_of_length_eq_zero (Nat.le_zero.mp enough)
      cases more <;> rfl
  | succ fuel ih =>
      cases letters with
      | nil => cases more <;> rfl
      | cons letter rest =>
          rw [List.length_cons] at enough plenty
          obtain ⟨more, rfl⟩ : ∃ less, more = less + 1 := ⟨more - 1, by omega⟩
          have shorter := length_firstToken letter rest
          rw [tokensUpTo, tokensUpTo]
          split
          · exact ih (by omega) (by omega)
          · simp only [List.cons.injEq, true_and]
            exact ih (by omega) (by omega)

theorem tokens_nil : tokens [] = [] := rfl

/-- A blank leaves no trace. -/
theorem tokens_of_isSpace (blank : isSpace letter = true) (rest : List Letter) :
    tokens (letter :: rest) = tokens rest := by
  rw [tokens, List.length_cons, tokensUpTo, if_pos blank, tokens]

/-- A text that starts with no blank is its first token and then the tokens of what is left. -/
theorem tokens_of_not_isSpace (filled : isSpace letter = false) (rest : List Letter) :
    tokens (letter :: rest) =
      (firstToken (letter :: rest)).1 :: tokens (firstToken (letter :: rest)).2 := by
  rw [tokens, List.length_cons, tokensUpTo, filled, if_neg Bool.false_ne_true, tokens]
  simp only [List.cons.injEq, true_and]
  exact tokensUpTo_eq (length_firstToken letter rest) (Nat.le_refl _)

end AffinityPool.Json
