/-
Module: AffinityPool.Proofs.KeyPath.Composition
Purpose: A path with a dot in it is the path before the dot and then the path behind it, for its
  reading as for the key it leads to.
Main exports:
  KeyPath.parse_append_dot, Message.walk_append, Message.affinityKey_eq_ok_iff,
  KeyPath.Composes, KeyPath.composes
-/
import AffinityPool.Proofs.KeyPath.Grammar
import AffinityPool.Proofs.Message.Candid

namespace AffinityPool

/-!
Pieces are read one by one, and none reaches over a dot, so a dot may be put between any two
paths.  Following the segments of the whole is following those in front and then those behind, and
nothing else goes into a key but that the value at the end is a text with characters in it.
-/

namespace KeyPath

variable {p q : String}

/-- What is read of two texts with a dot between them is what is read of each. -/
theorem parse_append_dot {segments : KeyPath} :
    parse (p ++ "." ++ q) = .ok segments ↔
      ∃ front back, parse p = .ok front ∧ parse q = .ok back ∧ front ++ back = segments := by
  have cut : Text.pieces '.' (p ++ "." ++ q).toList =
      Text.pieces '.' p.toList ++ Text.pieces '.' q.toList := by
    rw [← Text.pieces_append_cons]
    simp
  simp only [parse_eq_ok_iff, Spells, cut]
  constructor
  · rintro ⟨written, spells, rfl⟩
    obtain ⟨before, behind, rfl, one, two⟩ := List.map_eq_append_iff.mp spells
    exact ⟨_, _, ⟨before, one, rfl⟩, ⟨behind, two, rfl⟩, List.flatMap_append.symm⟩
  · rintro ⟨_, _, ⟨before, one, rfl⟩, ⟨behind, two, rfl⟩, rfl⟩
    exact ⟨before ++ behind, by rw [List.map_append, one, two], List.flatMap_append⟩

end KeyPath

namespace Message

variable {path key : String}

/-- A path is followed part by part. -/
theorem walk_append (message : Message) (front back : KeyPath) :
    message.walk (front ++ back) = message.walk front >>= fun value => value.walk back := by
  induction front generalizing message with
  | nil => rfl
  | cons segment front ih =>
      rw [List.cons_append, walk, walk, bind_assoc]
      exact bind_congr fun value => ih value

theorem asKey_null (key : String) : asKey .null ≠ .ok key := by simp [asKey]

/-- A key is a text with characters in it. -/
theorem ne_empty_of_asKey {value : Message} (found : value.asKey = .ok key) : key ≠ "" := by
  unfold asKey at found
  split at found
  · split at found
    · cases found
    · rename_i filled
      cases found
      simpa using filled
  · cases found

/-- A key is found by reading the path, following it, and taking the value at its end. -/
theorem affinityKey_eq_ok_iff {message : Message} :
    message.affinityKey path = .ok key ↔
      ∃ segments value, KeyPath.parse path = .ok segments ∧ message.walk segments = .ok value ∧
        value.asKey = .ok key := by
  unfold affinityKey
  cases KeyPath.parse path with
  | error fault => simp
  | ok segments =>
      cases reached : message.walk segments with
      | error miss => simp [reached, bind, Except.bind]
      | ok value =>
          cases taken : value.asKey <;> simp [reached, taken, bind, Except.bind, Except.mapError]

end Message

namespace KeyPath

/-- What a dot between two texts does. -/
structure Composes (p q : String) : Prop where
  /-- The whole is a path exactly if both sides are. -/
  accepted : (∃ segments, parse (p ++ "." ++ q) = .ok segments) ↔
    (∃ front, parse p = .ok front) ∧ ∃ back, parse q = .ok back
  /-- Its segments are those of one side and then those of the other. -/
  parsed : ∀ front back, parse p = .ok front → parse q = .ok back →
    parse (p ++ "." ++ q) = .ok (front ++ back)
  /-- A message has a key there exactly if the first path leads to a value that is set and has
  this key at the second. -/
  key : ∀ front back, parse p = .ok front → parse q = .ok back →
    ∀ (message : Message) (key : String), message.affinityKey (p ++ "." ++ q) = .ok key ↔
      ∃ value, message.walk front = .ok value ∧ value ≠ .null ∧ value.affinityKey q = .ok key
  /-- If there is none, a message whose parts answer for their fields has an absent key: nothing
  else goes wrong. -/
  absent : ∀ front back, parse p = .ok front → parse q = .ok back →
    ∀ message : Message, message.Candid →
      (¬∃ key value, message.walk front = .ok value ∧ value ≠ .null ∧
        value.affinityKey q = .ok key) →
      ∃ absence, message.affinityKey (p ++ "." ++ q) = .error (.absent absence)
  /-- No key is empty. -/
  nonempty : ∀ (message : Message) (path key : String),
    message.affinityKey path = .ok key → key ≠ ""

variable {p q : String} {front back : KeyPath}

/-- A key behind a dot is a key of the value that the path before the dot leads to. -/
theorem affinityKey_append_dot_iff (one : parse p = .ok front) (two : parse q = .ok back)
    (message : Message) (key : String) :
    message.affinityKey (p ++ "." ++ q) = .ok key ↔
      ∃ value, message.walk front = .ok value ∧ value ≠ .null ∧ value.affinityKey q = .ok key := by
  have whole : parse (p ++ "." ++ q) = .ok (front ++ back) :=
    parse_append_dot.mpr ⟨front, back, one, two, rfl⟩
  simp only [Message.affinityKey_eq_ok_iff, whole, two, Except.ok.injEq, exists_and_left,
    exists_eq_left', Message.walk_append]
  cases reached : message.walk front with
  | error miss => simp [bind, Except.bind]
  | ok value =>
      simp only [bind, Except.bind, Except.ok.injEq, exists_eq_left']
      refine (and_iff_right_of_imp ?_).symm
      rintro ⟨last, walked, found⟩ rfl
      cases back with
      | nil =>
          cases walked
          exact Message.asKey_null key found
      | cons segment back => cases walked

/-- Every two texts can have a dot between them, and the whole is what both are. -/
theorem composes (p q : String) : Composes p q where
  accepted := by
    simp only [parse_append_dot]
    constructor
    · rintro ⟨_, front, back, one, two, -⟩
      exact ⟨⟨front, one⟩, back, two⟩
    · rintro ⟨⟨front, one⟩, back, two⟩
      exact ⟨_, front, back, one, two, rfl⟩
  parsed front back one two := parse_append_dot.mpr ⟨front, back, one, two, rfl⟩
  key front back one two := affinityKey_append_dot_iff one two
  absent front back one two message candid none := by
    rcases candid.affinityKey (p ++ "." ++ q) with ⟨key, found⟩ | missed
    · exact absurd ⟨key, (affinityKey_append_dot_iff one two message key).mp found⟩ none
    · exact missed
  nonempty message path key found := by
    obtain ⟨segments, value, -, -, taken⟩ := Message.affinityKey_eq_ok_iff.mp found
    exact Message.ne_empty_of_asKey taken

/-- The key of an item of a repeated field: it is found through the item. -/
theorem composes_rows :
    (Message.dict [("rows", .list [.null, .dict [("id", .text "s1")]])]).affinityKey
      ("rows[1]" ++ "." ++ "id") = .ok "s1" :=
  ((composes "rows[1]" "id").key [.field "rows", .index 1] [.field "id"] rfl rfl _ "s1").mpr
    ⟨.dict [("id", .text "s1")], rfl, by simp, rfl⟩

end KeyPath

end AffinityPool
