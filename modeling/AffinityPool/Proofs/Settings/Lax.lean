/-
Module: AffinityPool.Proofs.Settings.Lax
Purpose: The library in use keeps to the laws of a library that validates documents.
Main exports:
  Settings.checkItems_eq_ok_iff, Settings.Fields.read_eq_ok_iff, Settings.lax_document
-/
import AffinityPool.Proofs.Settings.Laws
import AffinityPool.Settings.Lax

namespace AffinityPool.Settings

/-!
A validation succeeds exactly if every part of it does, whatever the locations of its issues.  There
is one lemma for each way of putting validations together.
-/

variable {α β V : Type}

/-! ### Validations put together -/

/-- Where an issue lies does not decide whether there is one. -/
theorem inside_eq_ok_iff {place : Place} {checked : Checked α} {a : α} :
    inside place checked = .ok a ↔ checked = .ok a := by
  cases checked <;> simp [inside, Except.mapError]

/-- Two validations succeed together if each of them does. -/
theorem both_eq_ok_iff {first : Checked α} {second : Checked β} {made : α × β} :
    both first second = .ok made ↔ first = .ok made.1 ∧ second = .ok made.2 := by
  obtain ⟨a, b⟩ := made
  cases first <;> cases second <;> simp [both]

/-- The items of an array pass if each of them does. -/
theorem checkItems_eq_ok_iff {check : V → Checked α} {position : Nat} {items : List V}
    {made : List α} :
    checkItems check position items = .ok made ↔
      List.Forall₂ (fun item a => check item = .ok a) items made := by
  induction items generalizing position made with
  | nil => simp [checkItems, eq_comm]
  | cons item items ih =>
      simp only [checkItems, map_eq_ok_iff, both_eq_ok_iff, inside_eq_ok_iff, ih,
        List.forall₂_cons_left_iff, Prod.exists]
      constructor
      · rintro ⟨a, others, ⟨one, rest⟩, rfl⟩
        exact ⟨a, others, one, rest, rfl⟩
      · rintro ⟨a, others, one, rest, rfl⟩
        exact ⟨a, others, ⟨one, rest⟩, rfl⟩

/-- A field is found under one of its names. -/
theorem find?_eq_fieldOf (name : FieldName) (members : Json.Members) :
    (name.find? fun written => Json.Members.get? members written).map Prod.snd =
      fieldOf members name.inDocuments name.own := by
  simp only [FieldName.find?, fieldOf]
  cases Json.Members.get? members name.inDocuments with
  | none => cases Json.Members.get? members name.own <;> rfl
  | some value => rfl

/-- A field is read without an issue exactly as the laws say: by its name for documents, by its own,
or as its standard value. -/
theorem Field.read_eq_ok_iff {field : Field Json α} {members : Json.Members} {a : α} :
    (field.read fun written => Json.Members.get? members written) = .ok a ↔
      field.Reads members a := by
  have named := find?_eq_fieldOf field.name members
  unfold Field.read
  cases found : field.name.find? fun written => Json.Members.get? members written with
  | none =>
      rw [found] at named
      cases standard : field.standard? with
      | none =>
          constructor
          · intro read
            cases inside_eq_ok_iff.mp read
          · rintro (⟨-, is⟩ | ⟨present, -⟩)
            · cases standard.symm.trans is
            · cases named.trans present
      | some value =>
          constructor
          · rintro ⟨⟩
            exact .standard named.symm standard
          · rintro (⟨-, is⟩ | ⟨present, -⟩)
            · cases standard.symm.trans is
              rfl
            · cases named.trans present
  | some held =>
      rw [found] at named
      rw [inside_eq_ok_iff]
      constructor
      · exact fun read => .written named.symm read
      · rintro (⟨absent, -⟩ | ⟨present, read⟩)
        · cases named.trans absent
        · cases named.trans present
          exact read

/-- Fields are read without an issue exactly if each of them is. -/
theorem Fields.read_eq_ok_iff {members : Json.Members} {fields : Fields Json α} {made : α} :
    fields.read (fun written => Json.Members.get? members written) = .ok made ↔
      fields.Reads members made := by
  induction fields with
  | none => exact ⟨fun _ => trivial, fun _ => rfl⟩
  | more field others ih =>
      rw [Fields.read, both_eq_ok_iff, Field.read_eq_ok_iff, ih]
      exact Iff.rfl

/-! ### What is made -/

/-- What a field is read as is its standard value or passes its check. -/
theorem Field.Reads.makes {field : Field Json α} {members : Json.Members} {a : α}
    (reads : field.Reads members a) : field.Makes a := by
  cases reads with
  | standard absent is => exact .standard is
  | written present read => exact .checked read

/-- The same holds for fields one after the other. -/
theorem Fields.Reads.makes {members : Json.Members} {fields : Fields Json α} {made : α}
    (reads : fields.Reads members made) : fields.Makes made := by
  induction fields with
  | none => trivial
  | more field others ih => exact ⟨reads.1.makes, ih reads.2⟩

/-- Whatever passes a list of validations comes from one of its items. -/
theorem exists_of_forall₂ {check : V → Checked α} {items : List V} {made : List α}
    (pairs : List.Forall₂ (fun item a => check item = .ok a) items made) :
    ∀ a ∈ made, ∃ item, check item = .ok a := by
  induction pairs with
  | nil => nofun
  | cons checked _ ih => exact List.forall_mem_cons.mpr ⟨⟨_, checked⟩, ih⟩

/-! ### The library in use -/

/-- A validation with a demand on what it makes. -/
theorem eq_ok_of_demand {demand : Prop} [Decidable demand] {kind : IssueKind} {a b : α}
    (made : (if demand then refuse kind else Except.ok a) = Except.ok b) : ¬demand ∧ a = b := by
  split at made
  · cases made
  · rename_i passes
    exact ⟨passes, Except.ok.inj made⟩

/-- The library in use keeps to the laws. -/
theorem lax_document : View.document.validator.Lax where
  text := by
    intro least text enough
    simp [View.validator, View.document, Text.LooseText.toString_ofString, Nat.not_lt.mpr enough]
  text_makes := by
    intro least document text made
    simp only [View.validator] at made
    split at made
    · obtain ⟨enough, rfl⟩ := eq_ok_of_demand made
      exact Nat.not_lt.mp enough
    · cases made
    · cases made
  word := by
    intro α words word meaning found
    simp [View.validator, View.document, Text.LooseText.toString_ofString, found]
  integer := by
    intro least n enough
    simp [View.validator, View.document, Int.not_lt.mpr enough]
  integer_makes := by
    intro least document n made
    simp only [View.validator] at made
    split at made
    · obtain ⟨enough, rfl⟩ := eq_ok_of_demand made
      exact Int.not_lt.mp enough
    · cases made
  list := by
    intro α least check items made enough pairs
    rw [← pairs.length_eq] at enough
    simp [View.validator, View.document, Nat.not_lt.mpr enough, checkItems_eq_ok_iff, pairs]
  list_makes := by
    intro α least check document made checked
    simp only [View.validator] at checked
    split at checked
    · split at checked
      · cases checked
      · rename_i enough
        have pairs := checkItems_eq_ok_iff.mp checked
        rw [pairs.length_eq] at enough
        exact ⟨Nat.not_lt.mp enough, exists_of_forall₂ pairs⟩
    · cases checked
  null := by
    intro α check
    rfl
  nullable := by
    intro α check document a present checked
    cases document with
    | null => exact absurd rfl present
    | _ => simp [View.validator, View.document, checked, Except.map]
  nullable_makes := by
    intro α check document a made
    simp only [View.validator] at made
    split at made
    · cases made
    · obtain ⟨held, checked, same⟩ := map_eq_ok_iff.mp made
      exact ⟨document, Option.some.inj same ▸ checked⟩
  model := by
    intro α className fields members made reads
    exact Fields.read_eq_ok_iff.mpr reads
  model_makes := by
    intro α className fields document made checked
    cases document with
    | object members => exact (Fields.read_eq_ok_iff.mp checked).makes
    | _ => cases checked

end AffinityPool.Settings
