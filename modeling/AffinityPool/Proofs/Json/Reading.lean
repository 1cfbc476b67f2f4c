/-
Module: AffinityPool.Proofs.Json.Reading
Purpose: A JSON text is read as the document that it writes.
Main exports:
  Json.Script.read, Json.Page.read
-/
import AffinityPool.Proofs.Json.Lexing

namespace AffinityPool.Json

open Text (Letter)

/-!
The reader goes through the tokens as the document goes through its parts.  Every call takes a token
or is the first inside a container, so a value needs less than two units of fuel for each of its
tokens, and items and members need no more than two.  Containers that are not empty are told by the
token behind their opening mark.
-/

variable {dialect : Dialect} {fuel depth : Nat}

/-! ### What the reader does with one token -/

theorem deeper_succ (container : Container) (depth : Nat) :
    deeper container (depth + 1) = .ok depth := rfl

/-- An empty container opens if there is room for it, where room is asked for. -/
theorem openEmpty_of_le {container : Container}
    (room : (if dialect.countsEmpty then 1 else 0) ≤ depth) :
    openEmpty dialect container depth = .ok () := by
  unfold openEmpty
  split
  · rename_i counts
    rw [if_pos counts] at room
    obtain ⟨less, rfl⟩ := Nat.exists_eq_add_of_le' room
    rfl
  · rfl

/-- Texts of characters are accepted in every dialect. -/
theorem isAccepted_text (dialect : Dialect) (strokes : List Stroke) :
    isAccepted dialect (Stroke.text strokes) = true := by
  rw [isAccepted, Stroke.text, Text.LooseText.isWhole_ofChars, Bool.or_true]

/-- A number that is not too long is read as what it says. -/
theorem toJson_number (number : Number)
    (short : number.numeral.whole.length ≤ Text.maxIntegerDigits) :
    number.numeral.toJson dialect = .ok number.value := by
  have convertible : ¬ Text.maxIntegerDigits < number.numeral.whole.length := Nat.not_lt.mpr short
  unfold Numeral.toJson Number.value Number.power
  cases number.numeral.fraction <;>
    rcases number.numeral.exponent with _ | ⟨_ | _, digits⟩ <;> simp [convertible]

/-! ### What values start with -/

/-- A value does not begin with the end of an array. -/
theorem Script.ne_closeArray (script : Script) (behind after : List Token) :
    script.tokens ++ behind ≠ .closeArray :: after := by
  cases script with
  | hollow container inside => cases container <;> nofun
  | _ => nofun

/-- An array that has items does not close at once. -/
theorem Items.ne_closeArray (items : Items) (behind after : List Token) :
    items.tokens ++ behind ≠ .closeArray :: after := by
  cases items with
  | last margins item => exact item.ne_closeArray behind after
  | more margins item others =>
      rw [Items.tokens, List.append_assoc]
      exact item.ne_closeArray _ after

/-- An object that has members does not close at once. -/
theorem Entries.ne_closeObject (entries : Entries) (behind after : List Token) :
    entries.tokens ++ behind ≠ .closeObject :: after := by
  cases entries <;> nofun

/-- Every value takes a token. -/
theorem Script.length_tokens_pos (script : Script) : 0 < script.tokens.length := by
  cases script with
  | hollow container inside => cases container <;> exact Nat.succ_pos _
  | _ => exact Nat.succ_pos _

/-- Items have tokens. -/
theorem Items.length_tokens_pos (items : Items) : 0 < items.tokens.length := by
  cases items with
  | last margins item => exact item.length_tokens_pos
  | more margins item others =>
      rw [Items.tokens, List.length_append]
      exact Nat.add_pos_left item.length_tokens_pos _

/-- Members have tokens. -/
theorem Entries.length_tokens_pos (entries : Entries) : 0 < entries.tokens.length := by
  cases entries <;> exact Nat.succ_pos _

/-! ### Reading -/

mutual

/-- The tokens of a value are read as the document that it writes, whatever stands behind them. -/
theorem Script.read : (script : Script) → script.Short → ∀ {fuel depth : Nat},
    script.depth dialect.countsEmpty ≤ depth → 2 * script.tokens.length ≤ fuel + 1 →
    ∀ rest, readValue dialect fuel depth (script.tokens ++ rest) = .ok (script.value, rest)
  | script, short, 0, depth, _, enough, rest => by
      have positive := script.length_tokens_pos
      omega
  | .null, _, fuel + 1, depth, _, _, rest => rfl
  | .bool value, _, fuel + 1, depth, _, _, rest => rfl
  | .number number, short, fuel + 1, depth, _, _, rest => by
      rw [Script.tokens, List.cons_append, List.nil_append, readValue.eq_6,
        toJson_number number short]
      rfl
  | .text strokes, _, fuel + 1, depth, _, _, rest => by
      rw [Script.tokens, List.cons_append, List.nil_append, readValue.eq_7,
        if_pos (isAccepted_text dialect strokes)]
      rfl
  | .hollow .array inside, _, fuel + 1, depth, room, _, rest => by
      rw [Script.tokens, List.cons_append, List.cons_append, List.nil_append, readValue.eq_8,
        openEmpty_of_le room]
      rfl
  | .hollow .object inside, _, fuel + 1, depth, room, _, rest => by
      rw [Script.tokens, List.cons_append, List.cons_append, List.nil_append, readValue.eq_10,
        openEmpty_of_le room]
      rfl
  | .array items, short, fuel + 1, depth, room, enough, rest => by
      rw [Script.depth] at room
      obtain ⟨depth, rfl⟩ : ∃ inside, depth = inside + 1 := ⟨depth - 1, by omega⟩
      rw [Script.tokens, List.length_cons, List.length_append] at enough
      have inner := items.read short (Nat.le_of_add_le_add_right room) (show _ ≤ fuel by omega) rest
      rw [Script.tokens, List.cons_append, List.append_assoc,
        readValue.eq_9 _ _ _ _ (items.ne_closeArray _)]
      simp only [deeper_succ, bind, Except.bind, List.cons_append, List.nil_append, inner]
      rfl
  | .object entries, short, fuel + 1, depth, room, enough, rest => by
      rw [Script.depth] at room
      obtain ⟨depth, rfl⟩ : ∃ inside, depth = inside + 1 := ⟨depth - 1, by omega⟩
      rw [Script.tokens, List.length_cons, List.length_append] at enough
      have inner := entries.read short (Nat.le_of_add_le_add_right room) (show _ ≤ fuel by omega)
        [] rest
      rw [Script.tokens, List.cons_append, List.append_assoc,
        readValue.eq_11 _ _ _ _ (entries.ne_closeObject _)]
      simp only [deeper_succ, bind, Except.bind, List.cons_append, List.nil_append, inner]
      rfl

/-- Items are read up to the end of their array. -/
theorem Items.read : (items : Items) → items.Short → ∀ {fuel depth : Nat},
    items.depth dialect.countsEmpty ≤ depth → 2 * items.tokens.length ≤ fuel →
    ∀ rest, readItems dialect fuel depth (items.tokens ++ .closeArray :: rest) =
      .ok (items.values, rest)
  | items, _, 0, _, _, enough, _ => by
      have positive := items.length_tokens_pos
      omega
  | .last margins item, short, fuel + 1, depth, room, enough, rest => by
      rw [Items.tokens, readItems.eq_2, item.read short room enough]
      rfl
  | .more margins item others, short, fuel + 1, depth, room, enough, rest => by
      rw [Items.tokens, List.length_append, List.length_cons] at enough
      have positive := item.length_tokens_pos
      have roomFor := Nat.max_le.mp room
      have first := item.read short.1 roomFor.1 (show _ ≤ fuel + 1 by omega)
        (.comma :: (others.tokens ++ .closeArray :: rest))
      have behind := others.read short.2 roomFor.2 (show _ ≤ fuel by omega) rest
      rw [Items.tokens, List.append_assoc, List.cons_append, readItems.eq_2, first]
      simp only [bind, Except.bind, behind]
      rfl

/-- Members are read up to the end of their object, behind those already read. -/
theorem Entries.read : (entries : Entries) → entries.Short → ∀ {fuel depth : Nat},
    entries.depth dialect.countsEmpty ≤ depth → 2 * entries.tokens.length ≤ fuel →
    ∀ before rest, readMembers dialect fuel depth before (entries.tokens ++ .closeObject :: rest) =
      .ok (entries.onto before, rest)
  | entries, _, 0, _, _, enough, _, _ => by
      have positive := entries.length_tokens_pos
      omega
  | .last label margins value, short, fuel + 1, depth, room, enough, before, rest => by
      rw [Entries.tokens, List.length_cons, List.length_cons] at enough
      have only := value.read short room (show _ ≤ fuel + 1 by omega) (.closeObject :: rest)
      rw [Entries.tokens, List.cons_append, List.cons_append, readMembers.eq_2,
        if_pos (isAccepted_text dialect label.strokes), only]
      rfl
  | .more label margins value others, short, fuel + 1, depth, room, enough, before, rest => by
      rw [Entries.tokens, List.length_cons, List.length_cons, List.length_append,
        List.length_cons] at enough
      have roomFor := Nat.max_le.mp room
      have first := value.read short.1 roomFor.1 (show _ ≤ fuel + 1 by omega)
        (.comma :: (others.tokens ++ .closeObject :: rest))
      have behind := others.read short.2 roomFor.2 (show _ ≤ fuel by omega)
        (Members.set before (Stroke.text label.strokes) value.value) rest
      rw [Entries.tokens, List.cons_append, List.cons_append, List.append_assoc, List.cons_append,
        readMembers.eq_2, if_pos (isAccepted_text dialect label.strokes), first]
      exact behind

end

/-- A text whose containers are not too deep and whose numbers are not too long is read as the
document that it writes. -/
theorem Page.read (page : Page) (short : page.script.Short)
    (room : page.script.depth dialect.countsEmpty ≤ dialect.maxDepth) :
    Json.read dialect page.chars = .ok page.value := by
  have whole := page.script.read short room
    (show _ ≤ 2 * page.script.tokens.length + 2 + 1 by omega) []
  rw [List.append_nil] at whole
  rw [Json.read, readLetters, page.tokens_chars, readTokens, whole]
  rfl

end AffinityPool.Json
