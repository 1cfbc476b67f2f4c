/-
Module: AffinityPool.Proofs.Message.Candid
Purpose: A message whose parts answer for their fields can always be asked for a key: it has one, or
  it has none.
Main exports:
  Message.Part, Message.Candid, Message.Candid.of_parts, Message.Candid.affinityKey,
  exists_keyOf, exists_requestKey, exists_keyAfter, exists_unaryEffect, exists_streamEffect
-/
import AffinityPool.Hub.Routing

namespace AffinityPool

namespace Message

/-! ### Parts -/

/-- What can be reached in a message by fields and positions, itself included. -/
inductive Part (part : Message) : Message → Prop where
  | whole : Part part part
  | item {message inner : Message} {items : List Message} (sequence : message.items? = some items)
      (member : inner ∈ items) (inside : Part part inner) : Part part message
  | field {message inner : Message} {name : String} (found : message.field? name = some inner)
      (inside : Part part inner) : Part part message

/-- Every part of a message that claims to answer for its fields does so.  All
messages are of this kind but those with an object that has the accessors'
operation as a plain attribute. -/
def Candid (message : Message) : Prop :=
  ∀ part, Part part message → part.feignsAnswers = false

namespace Candid

variable {message : Message}

/-- A message is candid if it is so itself and its items and fields are. -/
theorem of_parts (itself : message.feignsAnswers = false)
    (items : ∀ items, message.items? = some items → ∀ item ∈ items, item.Candid)
    (fields : ∀ name value, message.field? name = some value → value.Candid) :
    message.Candid := by
  intro part inside
  cases inside with
  | whole => exact itself
  | item sequence member inside => exact items _ sequence _ member part inside
  | field found inside => exact fields _ _ found part inside

/-- Scalars are candid. -/
theorem of_scalar (itself : message.feignsAnswers = false) (items : message.items? = none)
    (fields : ∀ name, message.field? name = none) : message.Candid := by
  refine of_parts itself ?_ ?_
  · intro others sequence
    rw [items] at sequence
    cases sequence
  · intro name value found
    rw [fields] at found
    cases found

theorem null : Candid .null := of_scalar rfl rfl fun _ => rfl

theorem text (value : String) : Candid (.text value) := of_scalar rfl rfl fun _ => rfl

/-- A mapping is candid if its values are. -/
theorem dict {members : List (String × Message)} (values : ∀ member ∈ members, member.2.Candid) :
    Candid (.dict members) := by
  refine of_parts rfl ?_ ?_
  · intro items sequence
    cases sequence
  · intro name value found
    obtain ⟨before, after, split, -⟩ := List.lookup_eq_some_iff.mp found
    exact values (name, value) (by simp [split])

/-! ### Following a path -/

theorem item (candid : message.Candid) {items : List Message} {inner : Message}
    (sequence : message.items? = some items) (member : inner ∈ items) : inner.Candid :=
  fun part inside => candid part (.item sequence member inside)

theorem field (candid : message.Candid) {name : String} {inner : Message}
    (found : message.field? name = some inner) : inner.Candid :=
  fun part inside => candid part (.field found inside)

/-- A step into a candid message leads to a candid message, or finds nothing. -/
theorem step (candid : message.Candid) (segment : Segment) :
    (∃ value, message.step segment = .ok value ∧ value.Candid) ∨
      ∃ absence, message.step segment = .error (.absent absence) := by
  unfold Message.step
  split
  · exact Or.inr ⟨_, rfl⟩
  · rename_i position _
    cases found : message.item position with
    | error absence => exact Or.inr ⟨absence, rfl⟩
    | ok inner =>
        refine Or.inl ⟨inner, rfl, ?_⟩
        unfold Message.item at found
        split at found
        · cases found
        · rename_i items sequence
          split at found
          · rename_i there
            cases found
            exact candid.item sequence (List.mem_of_getElem? there)
          · cases found
  · rw [candid message .whole, if_neg Bool.false_ne_true]
    split
    · rename_i value found
      exact Or.inl ⟨value, rfl, candid.field found⟩
    · exact Or.inr ⟨_, rfl⟩

/-- A path through a candid message leads to a value, or breaks off. -/
theorem walk (candid : message.Candid) (path : KeyPath) :
    (∃ value, message.walk path = .ok value) ∨
      ∃ absence, message.walk path = .error (.absent absence) := by
  induction path generalizing message with
  | nil => exact Or.inl ⟨message, rfl⟩
  | cons segment path ih =>
      rcases candid.step segment with ⟨value, stepped, inner⟩ | ⟨absence, missed⟩
      · rcases ih inner with ⟨last, reached⟩ | ⟨absence, missed⟩
        · exact Or.inl ⟨last, by simp [Message.walk, stepped, reached, Except.bind, bind]⟩
        · exact Or.inr ⟨absence, by simp [Message.walk, stepped, missed, bind, Except.bind]⟩
      · exact Or.inr ⟨absence, by simp [Message.walk, missed, bind, Except.bind]⟩

/-- A candid message has a key at a path, or it has none there. -/
theorem affinityKey (candid : message.Candid) (path : String) :
    (∃ key, message.affinityKey path = .ok key) ∨
      ∃ absence, message.affinityKey path = .error (.absent absence) := by
  unfold Message.affinityKey
  cases KeyPath.parse path with
  | error fault => exact Or.inr ⟨_, rfl⟩
  | ok path =>
      rcases candid.walk path with ⟨value, reached⟩ | ⟨absence, missed⟩
      · simp only [reached, bind, Except.bind]
        cases value.asKey with
        | ok key => exact Or.inl ⟨key, rfl⟩
        | error absence => exact Or.inr ⟨absence, rfl⟩
      · exact Or.inr ⟨absence, by simp [missed, bind, Except.bind]⟩

end Candid

end Message

/-! ### What a hub asks of its messages -/

variable {request : Option Message} {response : Message}

/-- A rule can ask a candid message for its key. -/
theorem exists_keyOf (candid : response.Candid) (rule : Rule) :
    ∃ key notes, rule.keyOf response = .ok (key, notes) := by
  unfold Rule.keyOf
  rcases candid.affinityKey rule.keyPath with ⟨key, found⟩ | ⟨absence, missed⟩
  · exact ⟨some key, [], by rw [found]⟩
  · exact ⟨none, _, by rw [missed]⟩

/-- A call can be asked for the key of its request. -/
theorem exists_requestKey (candid : ∀ first, request = some first → first.Candid)
    (rule : Option Rule) : ∃ key notes, requestKey rule request = .ok (key, notes) := by
  unfold requestKey
  split
  · split
    · exact exists_keyOf (candid _ rfl) _
    · exact ⟨none, [], rfl⟩
  · exact ⟨none, [], rfl⟩

/-- A stream can be asked for the key of a response. -/
theorem exists_keyAfter (candid : response.Candid) (rule : Option Rule)
    (firstKey : Option String) : ∃ key, keyAfter rule firstKey response = .ok key := by
  unfold keyAfter
  split
  · exact ⟨_, rfl⟩
  · rename_i rule
    split
    · obtain ⟨key, notes, read⟩ := exists_keyOf candid rule
      exact ⟨key, by rw [read]; rfl⟩
    · exact ⟨none, rfl⟩
  · exact ⟨none, rfl⟩

/-- An unbind can ask the request for its key once more. -/
theorem exists_unbinding (candid : ∀ first, request = some first → first.Candid)
    (rule : Option Rule) :
    ∃ effect notes,
      ((requestKey rule request).map fun (key, notes) => (IndexEffect.unbinding key, notes)) =
        .ok (effect, notes) := by
  obtain ⟨key, notes, read⟩ := exists_requestKey candid rule
  exact ⟨_, _, by rw [read]; rfl⟩

/-- The effect of a call that brought its one response can be told. -/
theorem exists_unaryEffect (asked : ∀ first, request = some first → first.Candid)
    (candid : response.Candid) (rule : Option Rule) :
    ∃ effect notes, unaryEffect rule request response = .ok (effect, notes) := by
  unfold unaryEffect
  cases rule with
  | none => exact ⟨.nothing, [], rfl⟩
  | some rule =>
      cases command : rule.command with
      | bound => exact ⟨.nothing, [], by simp only [command]⟩
      | bind =>
          obtain ⟨key, notes, read⟩ := exists_keyOf candid rule
          exact ⟨_, _, by simp only [command, read]; rfl⟩
      | unbind =>
          simp only [command]
          exact exists_unbinding asked (some rule)

/-- The effect of a call whose stream of responses ended can be told. -/
theorem exists_streamEffect (asked : ∀ first, request = some first → first.Candid)
    (rule : Option Rule) (firstKey : Option String) :
    ∃ effect notes, streamEffect rule request firstKey = .ok (effect, notes) := by
  unfold streamEffect
  cases rule with
  | none => exact ⟨.nothing, [], rfl⟩
  | some rule =>
      cases command : rule.command with
      | bound => exact ⟨.nothing, [], by simp only [command]⟩
      | bind => cases firstKey <;> exact ⟨_, _, by simp only [command]; rfl⟩
      | unbind =>
          simp only [command]
          exact exists_unbinding asked (some rule)

end AffinityPool
