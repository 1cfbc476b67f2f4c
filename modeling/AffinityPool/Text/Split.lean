/-
Module: AffinityPool.Text.Split
Purpose: Texts cut at every occurrence of a separator, and put together again.
Main exports:
  pieces, joined, joined_pieces, pieces_append_cons, pieces_joined, mem_joined
-/

namespace AffinityPool.Text

variable {α : Type}

/-- The pieces of a text between separators.  There is one more piece than
separators, so an empty text is one empty piece. -/
def pieces [DecidableEq α] (separator : α) : List α → List (List α)
  | [] => [[]]
  | c :: rest =>
      if c = separator then [] :: pieces separator rest
      else
        match pieces separator rest with
        | piece :: others => (c :: piece) :: others
        | [] => [[c]]

/-- Pieces with a separator between each two of them. -/
def joined (separator : α) (parts : List (List α)) : List α :=
  (parts.intersperse [separator]).flatten

/-- The parts stand behind one another, with a separator in front of all but the first. -/
theorem joined_cons (separator : α) (part : List α) (parts : List (List α)) :
    joined separator (part :: parts) = part ++ parts.flatMap (separator :: ·) := by
  induction parts generalizing part with
  | nil => simp [joined]
  | cons next parts ih =>
      have later := ih next
      simp only [joined, List.intersperse_cons_cons, List.flatten_cons] at later ⊢
      rw [later]
      simp

/-- A character of parts with separators is a separator or is in one of the parts. -/
theorem mem_joined {separator c : α} {parts : List (List α)}
    (member : c ∈ joined separator parts) : c = separator ∨ ∃ part ∈ parts, c ∈ part := by
  cases parts with
  | nil => simp [joined] at member
  | cons part parts =>
      rw [joined_cons, List.mem_append, List.mem_flatMap] at member
      rcases member with first | ⟨later, among, inside⟩
      · exact Or.inr ⟨part, List.mem_cons_self, first⟩
      · rcases List.mem_cons.mp inside with same | inside
        · exact Or.inl same
        · exact Or.inr ⟨later, List.mem_cons_of_mem part among, inside⟩

theorem mem_joined_of_mem {separator c : α} {part : List α} {parts : List (List α)}
    (among : part ∈ parts) (inside : c ∈ part) : c ∈ joined separator parts := by
  obtain ⟨first, others, rfl⟩ := List.exists_cons_of_ne_nil (List.ne_nil_of_mem among)
  rw [joined_cons, List.mem_append, List.mem_flatMap]
  rcases List.mem_cons.mp among with rfl | later
  · exact Or.inl inside
  · exact Or.inr ⟨part, later, List.mem_cons_of_mem separator inside⟩

variable [DecidableEq α]

theorem pieces_ne_nil (separator : α) (chars : List α) : pieces separator chars ≠ [] := by
  induction chars with
  | nil => simp [pieces]
  | cons c rest ih =>
      simp only [pieces]
      split
      · simp
      · split <;> simp

/-- Putting the pieces of a text together gives the text. -/
theorem joined_pieces (separator : α) (chars : List α) :
    joined separator (pieces separator chars) = chars := by
  induction chars with
  | nil => rfl
  | cons c rest ih =>
      simp only [pieces]
      split
      · rename_i same
        obtain ⟨piece, others, found⟩ : ∃ piece others, pieces separator rest = piece :: others :=
          List.exists_cons_of_ne_nil (pieces_ne_nil separator rest)
        rw [found] at ih ⊢
        simp only [joined, List.intersperse_cons_cons, List.flatten_cons, List.nil_append,
          List.singleton_append]
        rw [same, ← ih, joined]
      · split
        · rename_i piece others found
          rw [found] at ih
          cases others with
          | nil => simp_all [joined]
          | cons next others => simp_all [joined]
        · rename_i found
          exact absurd found (pieces_ne_nil separator rest)

/-- A separator cuts a text in two, whatever stands on its sides. -/
theorem pieces_append_cons (separator : α) (before after : List α) :
    pieces separator (before ++ separator :: after) =
      pieces separator before ++ pieces separator after := by
  induction before with
  | nil => simp [pieces]
  | cons c rest ih =>
      obtain ⟨piece, others, found⟩ : ∃ piece others, pieces separator rest = piece :: others :=
        List.exists_cons_of_ne_nil (pieces_ne_nil separator rest)
      simp only [List.cons_append, pieces, ih, found]
      split <;> rfl

/-- A text without separators is one piece. -/
theorem pieces_of_notMem {separator : α} {chars : List α} (free : separator ∉ chars) :
    pieces separator chars = [chars] := by
  induction chars with
  | nil => rfl
  | cons c rest ih =>
      have other : c ≠ separator := fun same => free (same ▸ List.mem_cons_self)
      rw [pieces, if_neg other, ih fun member => free (List.mem_cons_of_mem c member)]

/-- No piece has a separator in it. -/
theorem notMem_of_mem_pieces {separator : α} {chars piece : List α}
    (member : piece ∈ pieces separator chars) : separator ∉ piece := by
  induction chars generalizing piece with
  | nil => simp_all [pieces]
  | cons c rest ih =>
      rw [pieces] at member
      split at member
      · rcases List.mem_cons.mp member with rfl | later
        · exact List.not_mem_nil
        · exact ih later
      · rename_i other
        split at member
        · rename_i first others found
          rw [found] at ih
          rcases List.mem_cons.mp member with rfl | later
          · intro inside
            rcases List.mem_cons.mp inside with same | inside
            · exact other same.symm
            · exact ih List.mem_cons_self inside
          · exact ih (List.mem_cons_of_mem first later)
        · rename_i found
          exact absurd found (pieces_ne_nil separator rest)

/-- Parts without separators are the pieces of what they make together. -/
theorem pieces_joined {separator : α} {parts : List (List α)} (nonempty : parts ≠ [])
    (free : ∀ part ∈ parts, separator ∉ part) :
    pieces separator (joined separator parts) = parts := by
  induction parts with
  | nil => exact absurd rfl nonempty
  | cons part parts ih =>
      have alone := pieces_of_notMem (free part List.mem_cons_self)
      cases parts with
      | nil => simpa [joined] using alone
      | cons next parts =>
          have behind := ih (by simp) fun part member => free part (List.mem_cons_of_mem _ member)
          have split : joined separator (part :: next :: parts) =
              part ++ separator :: joined separator (next :: parts) := by
            simp [joined_cons]
          rw [split, pieces_append_cons, alone, behind, List.singleton_append]

end AffinityPool.Text
