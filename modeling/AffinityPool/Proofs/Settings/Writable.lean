/-
Module: AffinityPool.Proofs.Settings.Writable
Purpose: Proper settings can be written.
Main exports:
  Json.Scripted, Settings.exists_page
-/
import AffinityPool.Proofs.Json.Reading
import AffinityPool.Proofs.KeyPath.Numeral
import AffinityPool.Proofs.Settings.Written
import AffinityPool.Settings.Document
import Mathlib.Algebra.Group.Int.Defs

namespace AffinityPool

/-!
Every character has a stroke and every number has its digits, so every text and every number that is
not too long can be written, and from these every array and every object.  Settings take four
containers inside one another.
-/

namespace Json

open Text (LooseText Letter)

variable {c : Char} {depth : Nat}

/-! ### Texts and numbers -/

/-- Control characters have a code. -/
theorem exists_code {unit : Nat} (control : unit < 0x20) : ∃ code : Code, code.unit = unit := by
  have table : ∀ unit < 0x20,
      codeUnit? '0' '0' (Nat.digitChar (unit / 16)) (Nat.digitChar (unit % 16)) = some unit := by
    decide
  exact ⟨⟨_, _, _, _, unit, table unit control⟩, rfl⟩

/-- Every character can be written: as it is, by a short escape, or by its code. -/
theorem Stroke.exists_char (c : Char) : ∃ stroke : Stroke, stroke.char = c := by
  by_cases quote : c = '"'
  · exact ⟨.short '"' '"' rfl, quote.symm⟩
  by_cases backslash : c = '\\'
  · exact ⟨.short '\\' '\\' rfl, backslash.symm⟩
  by_cases control : c.toNat < 0x20
  · obtain ⟨code, unit⟩ := exists_code control
    have alone : Letter.isHalf code.unit = false := by
      simp only [Letter.isHalf, Bool.and_eq_false_iff, decide_eq_false_iff_not]
      omega
    exact ⟨.coded code alone, by rw [Stroke.char, unit, Char.ofNat_toNat]⟩
  · exact ⟨.plain c ⟨quote, backslash, not_lt.mp control⟩, rfl⟩

/-- Every text can be written, character by character. -/
theorem Stroke.exists_text (text : String) : ∃ strokes, Stroke.text strokes = text := by
  have chars : ∀ chars : List Char, ∃ strokes : List Stroke, strokes.map Stroke.char = chars := by
    intro chars
    induction chars with
    | nil => exact ⟨[], rfl⟩
    | cons c chars ih =>
        obtain ⟨stroke, rfl⟩ := Stroke.exists_char c
        obtain ⟨strokes, rfl⟩ := ih
        exact ⟨stroke :: strokes, rfl⟩
  obtain ⟨strokes, same⟩ := chars text.toList
  exact ⟨strokes, by rw [Stroke.text, same, LooseText.ofString]⟩

/-- The digits of a number are digits that a numeral may have. -/
theorem areNumeralDigits_toDigits (n : Nat) : AreNumeralDigits (Nat.toDigits 10 n) := by
  refine ⟨Nat.toDigits_ne_nil, fun c member => ?_⟩
  have digit := Nat.isDigit_of_mem_toDigits (by decide) (by decide) member
  simpa [isNumeralDigit, Char.isDigit, Char.le_def] using digit

/-- The digits of a number start with a zero only if they are no more than that. -/
theorem eq_of_head?_toDigits {n : Nat} (zero : (Nat.toDigits 10 n).head? = some '0') :
    Nat.toDigits 10 n = ['0'] := by
  induction n using Nat.base_induction 10 (by decide) with
  | single value small =>
      rw [Nat.toDigits_of_lt_base small] at zero ⊢
      rw [Option.some.inj zero]
  | digit front value small positive ih =>
      rw [← Nat.toDigits_append_toDigits (by decide) positive small,
        List.head?_append_of_ne_nil _ Nat.toDigits_ne_nil] at zero
      have none : front = 0 := by
        rw [← Text.decimalNumber_toDigits front, ih zero]
        rfl
      omega

/-- Every natural number that is not too long can be written. -/
theorem Number.exists_int {n : Int} (natural : 0 ≤ n) (short : n < 10 ^ Text.maxIntegerDigits) :
    ∃ number : Number, number.value = .int n ∧
      number.numeral.whole.length ≤ Text.maxIntegerDigits := by
  obtain ⟨n, rfl⟩ := Int.eq_ofNat_of_zero_le natural
  refine ⟨⟨⟨false, Nat.toDigits 10 n, none, none⟩, false, false, areNumeralDigits_toDigits n,
    eq_of_head?_toDigits, nofun, nofun⟩, ?_, ?_⟩
  · simp [Number.value, Text.decimalNumber_toDigits]
  · have less : ∀ places : Nat, (n : Int) < 10 ^ places → n < 10 ^ places := by
      intro places below
      exact_mod_cast below
    exact (Nat.length_toDigits_le_iff (by decide) (by decide)).mpr (less _ short)

/-! ### Values -/

/-- A document of some kind is written by a script that is short and not too deep. -/
def Scripted (depth : Nat) (kind : Json → Prop) : Prop :=
  ∃ script : Script, kind script.value ∧ script.Short ∧
    ∀ countsEmpty, script.depth countsEmpty ≤ depth

namespace Scripted

variable {one other : Json → Prop}

/-- A document of one kind that is written is one of any wider kind. -/
theorem mono {kind : Json → Prop} (scripted : Scripted depth one)
    (less : ∀ document, one document → kind document) : Scripted depth kind := by
  obtain ⟨script, is, short, room⟩ := scripted
  exact ⟨script, less _ is, short, room⟩

theorem null : Scripted depth (· = .null) :=
  ⟨.null, rfl, trivial, fun _ => Nat.zero_le _⟩

theorem text (text : String) : Scripted depth (· = .text text) := by
  obtain ⟨strokes, same⟩ := Stroke.exists_text text
  exact ⟨.text strokes, congrArg Json.text same, trivial, fun _ => Nat.zero_le _⟩

theorem int {n : Int} (natural : 0 ≤ n) (short : n < 10 ^ Text.maxIntegerDigits) :
    Scripted depth (· = .int n) := by
  obtain ⟨number, same, digits⟩ := Number.exists_int natural short
  exact ⟨.number number, same, digits, fun _ => Nat.zero_le _⟩

/-- An object of two members. -/
theorem object (first second : String)
    (apart : LooseText.ofString first ≠ LooseText.ofString second)
    (scripted : Scripted depth one) (otherScripted : Scripted depth other) :
    Scripted (depth + 1) fun document => ∃ value otherValue, one value ∧ other otherValue ∧
      document = .object [(.ofString first, value), (.ofString second, otherValue)] := by
  obtain ⟨script, is, short, room⟩ := scripted
  obtain ⟨otherScript, isOther, shortOther, roomOther⟩ := otherScripted
  obtain ⟨strokes, named⟩ := Stroke.exists_text first
  obtain ⟨otherStrokes, namedOther⟩ := Stroke.exists_text second
  have bare : Margins := ⟨[], []⟩
  refine ⟨.object (.more ⟨bare, strokes⟩ bare script (.last ⟨bare, otherStrokes⟩ bare otherScript)),
    ⟨_, _, is, isOther, ?_⟩, ⟨short, shortOther⟩, fun countsEmpty => ?_⟩
  · simp [Script.value, Entries.onto, Members.set, named, namedOther, apart]
  · exact Nat.succ_le_succ (max_le (room countsEmpty) (roomOther countsEmpty))

/-- Documents that are written each are written side by side, as the items of an array. -/
theorem items {α : Type} {writes : α → Json → Prop} {first : α} {others : List α}
    (each : ∀ a ∈ first :: others, Scripted depth (writes a)) :
    ∃ items : Items, List.Forall₂ writes (first :: others) items.values ∧ items.Short ∧
      ∀ countsEmpty, items.depth countsEmpty ≤ depth := by
  obtain ⟨script, is, short, room⟩ := each first List.mem_cons_self
  have bare : Margins := ⟨[], []⟩
  cases others with
  | nil => exact ⟨.last bare script, .cons is .nil, short, room⟩
  | cons second others =>
      obtain ⟨behind, are, shortBehind, roomBehind⟩ :=
        items fun a member => each a (List.mem_cons_of_mem first member)
      exact ⟨.more bare script behind, .cons is are, ⟨short, shortBehind⟩,
        fun countsEmpty => max_le (room countsEmpty) (roomBehind countsEmpty)⟩

/-- An array of documents that are written each. -/
theorem array {α : Type} {writes : α → Json → Prop} {elements : List α}
    (each : ∀ a ∈ elements, Scripted depth (writes a)) :
    Scripted (depth + 1) fun document =>
      ∃ items, List.Forall₂ writes elements items ∧ document = .array items := by
  cases elements with
  | nil =>
      refine ⟨.hollow .array [], ⟨[], .nil, rfl⟩, trivial, fun countsEmpty => ?_⟩
      rw [Script.depth]
      split <;> omega
  | cons first others =>
      obtain ⟨items, are, short, room⟩ := items each
      exact ⟨.array items, ⟨_, are, rfl⟩, short,
        fun countsEmpty => Nat.succ_le_succ (room countsEmpty)⟩

end Scripted

end Json

namespace Settings

open Json (Scripted)

/-! ### Settings -/

theorem scripted_command (command : Command) {depth : Nat} :
    Scripted depth (WritesCommand command) := by
  cases command with
  | bound => exact (Scripted.text "BOUND").mono fun _ same => same ▸ .bound
  | bind => exact (Scripted.text "BIND").mono fun _ same => same ▸ .bind
  | unbind => exact (Scripted.text "UNBIND").mono fun _ same => same ▸ .unbind

/-- A rule takes one container, and where there is none, null will do. -/
theorem scripted_rule (rule : Option KeyRule) : Scripted 1 (WritesRule rule) := by
  cases rule with
  | none => exact Scripted.null.mono fun _ same => same ▸ .null
  | some rule =>
      refine (Scripted.object "command" "affinityKey" (by decide) (scripted_command rule.command)
        (Scripted.text rule.keyPath)).mono ?_
      rintro _ ⟨word, _, named, rfl, rfl⟩
      exact .rule (.object rfl named rfl)

/-- The names of methods take one container. -/
theorem scripted_methods (methods : List String) :
    Scripted 1 (· = .array (methods.map fun method => Json.text (.ofString method))) := by
  refine (Scripted.array fun method (_ : method ∈ methods) => Scripted.text method).mono ?_
  rintro _ ⟨items, are, rfl⟩
  have same : methods.map (fun method => Json.text (.ofString method)) = items := by
    rw [← List.forall₂_eq_eq_eq, List.forall₂_map_left_iff]
    exact are.imp fun _ _ same => same.symm
  rw [same]

/-- An entry takes two containers, one inside the other. -/
theorem scripted_entry (entry : MethodEntry) : Scripted 2 entry.Writes := by
  refine (Scripted.object "name" "affinity" (by decide) (scripted_methods entry.methods)
    (scripted_rule entry.rule)).mono ?_
  rintro _ ⟨_, rule, rfl, ruled, rfl⟩
  exact .object rfl (.written ruled)

/-- Entries take one container more than each of them. -/
theorem scripted_entries (entries : List MethodEntry) : Scripted 3 (WritesEntries entries) := by
  refine (Scripted.array fun entry (_ : entry ∈ entries) => scripted_entry entry).mono ?_
  rintro _ ⟨items, are, rfl⟩
  exact .array are

/-- Bounds that are proper and not too long to be read. -/
theorem scripted_bounds {bounds : PoolBounds} (proper : bounds.Proper)
    (size : bounds.maxSize < 10 ^ Text.maxIntegerDigits)
    (streams : bounds.ceiling < 10 ^ Text.maxIntegerDigits) :
    Scripted 3 bounds.Writes := by
  have natural : ∀ n : Int, 1 ≤ n → 0 ≤ n := fun n least => by omega
  refine (Scripted.object "maxSize" "maxConcurrentStreamsLowWatermark" (by decide)
    (Scripted.int (natural _ proper.maxSize) size)
    (Scripted.int (natural _ proper.ceiling) streams)).mono ?_
  rintro _ ⟨_, _, rfl, rfl, rfl⟩
  exact .object (.written (.int _)) (.written (.int _))

/-- Proper settings whose bounds are not too long are written by a text that is read. -/
theorem exists_page {settings : Settings} (proper : settings.Proper)
    (size : settings.bounds.maxSize < 10 ^ Text.maxIntegerDigits)
    (streams : settings.bounds.ceiling < 10 ^ Text.maxIntegerDigits) :
    ∃ page : Json.Page, settings.Writes page.value ∧ page.script.Short ∧
      page.script.depth dialect.countsEmpty ≤ dialect.maxDepth := by
  obtain ⟨script, ⟨bounds, entries, pool, listed, same⟩, short, room⟩ :=
    Scripted.object "channelPool" "method" (by decide) (scripted_bounds proper.bounds size streams)
      (scripted_entries settings.entries)
  refine ⟨⟨⟨[], []⟩, script⟩, ?_, short, le_trans (room _) (by decide)⟩
  rw [Json.Page.value, same]
  exact .object (.written pool) (.written listed)

end Settings

end AffinityPool
