/-
Module: AffinityPool.Proofs.Settings.Written
Purpose: Which documents write settings, and that proper settings are read from them.
Main exports:
  Settings.OrDefault, Settings.Writes, Settings.Validator.Lax.settings_of_writes
-/
import AffinityPool.Proofs.Settings.Laws

namespace AffinityPool.Settings

/-!
A document writes settings part by part.  Each field has a name for documents and a name of its
own, and either will do; what stands for the standard may be left out; and nothing is said about the
order of the members or about members of other names.  The names, the words of the commands and the
standard values are written out here once more, so that a slip in any of them would show.
-/

/-! ### Documents that write settings -/

/-- What a field is: the standard value if nothing is found, and otherwise what is made of what is
found. -/
inductive OrDefault {α β : Type} (standard : α) (made : α → β → Prop) : α → Option β → Prop where
  | absent : OrDefault standard made standard none
  | written {a : α} {b : β} (is : made a b) : OrDefault standard made a (some b)

/-- The words of the commands. -/
inductive WritesCommand : Command → Json → Prop where
  | bound : WritesCommand .bound (.text "BOUND")
  | bind : WritesCommand .bind (.text "BIND")
  | unbind : WritesCommand .unbind (.text "UNBIND")

/-- The object of a rule. -/
inductive KeyRule.Writes : KeyRule → Json → Prop where
  | object {rule : KeyRule} {members : Json.Members} {word : Json}
      (command : fieldOf members "command" "command" = some word)
      (named : WritesCommand rule.command word)
      (keyPath : fieldOf members "affinityKey" "affinity_key" = some (.text rule.keyPath)) :
      Writes rule (.object members)

/-- A rule, or null where there is none. -/
inductive WritesRule : Option KeyRule → Json → Prop where
  | null : WritesRule none .null
  | rule {rule : KeyRule} {document : Json} (writes : rule.Writes document) :
      WritesRule (some rule) document

/-- The object of an entry. -/
inductive MethodEntry.Writes : MethodEntry → Json → Prop where
  | object {entry : MethodEntry} {members : Json.Members}
      (methods : fieldOf members "name" "name" =
        some (.array (entry.methods.map fun method => Json.text (.ofString method))))
      (rule : OrDefault none WritesRule entry.rule (fieldOf members "affinity" "affinity")) :
      Writes entry (.object members)

/-- The array of the entries. -/
inductive WritesEntries : List MethodEntry → Json → Prop where
  | array {entries : List MethodEntry} {items : List Json}
      (each : List.Forall₂ MethodEntry.Writes entries items) : WritesEntries entries (.array items)

/-- A number. -/
inductive WritesNumber : Int → Json → Prop where
  | int (n : Int) : WritesNumber n (.int n)

/-- The object of the bounds. -/
inductive PoolBounds.Writes : PoolBounds → Json → Prop where
  | object {bounds : PoolBounds} {members : Json.Members}
      (maxSize : OrDefault 10 WritesNumber bounds.maxSize (fieldOf members "maxSize" "max_size"))
      (ceiling : OrDefault 100 WritesNumber bounds.ceiling
        (fieldOf members "maxConcurrentStreamsLowWatermark"
          "max_concurrent_streams_low_watermark")) :
      Writes bounds (.object members)

/-- The object of settings. -/
inductive Writes : Settings → Json → Prop where
  | object {settings : Settings} {members : Json.Members}
      (bounds : OrDefault ⟨10, 100⟩ PoolBounds.Writes settings.bounds
        (fieldOf members "channelPool" "channel_pool"))
      (entries : OrDefault [] WritesEntries settings.entries (fieldOf members "method" "method")) :
      Writes settings (.object members)

/-! ### Reading what is written -/

/-- A field that may be left out is read as what is written, or else as its standard value. -/
theorem OrDefault.reads {α : Type} {members : Json.Members} {name : FieldName} {standard a : α}
    {check : Json → Checked α} {writes : α → Json → Prop}
    (found : OrDefault standard writes a (fieldOf members name.inDocuments name.own))
    (reads : ∀ document, writes a document → check document = .ok a) :
    Field.Reads members ⟨name, some standard, check⟩ a := by
  generalize held : fieldOf members name.inDocuments name.own = value at found
  cases found with
  | absent => exact .standard held rfl
  | written is => exact .written held (reads _ is)

/-- The word that writes a command is one of the words that are declared, and it stands for that
command. -/
theorem lookup_of_writes {command : Command} {document : Json}
    (writes : WritesCommand command document) :
    ∃ word, document = .text (.ofString word) ∧ commandWords.lookup word = some command := by
  cases writes with
  | bound => exact ⟨"BOUND", rfl, by decide⟩
  | bind => exact ⟨"BIND", rfl, by decide⟩
  | unbind => exact ⟨"UNBIND", rfl, by decide⟩

namespace Validator.Lax

variable {validator : Validator Json} {document : Json}

/-- A rule is read back from the object that writes it, as long as its key path is not empty. -/
theorem keyRule_of_writes (lax : validator.Lax) {rule : KeyRule} (writes : rule.Writes document)
    (filled : rule.keyPath ≠ "") : validator.keyRule document = .ok rule := by
  cases writes with
  | object command named keyPath =>
      obtain ⟨word, rfl, found⟩ := lookup_of_writes named
      refine map_eq_ok_iff.mpr ⟨(rule.command, rule.keyPath, ()), lax.model ⟨?_, ?_, trivial⟩, rfl⟩
      · exact .written command (lax.word found)
      · exact .written keyPath (lax.text (length_pos_iff.mpr filled))

/-- A rule that is written is an object, so it is not taken for null. -/
theorem nullable_of_writes (lax : validator.Lax) {rule : Option KeyRule}
    (writes : WritesRule rule document) (filled : ∀ held, rule = some held → held.keyPath ≠ "") :
    validator.nullable validator.keyRule document = .ok rule := by
  cases writes with
  | null => exact lax.null
  | rule writes =>
      have read := lax.keyRule_of_writes writes (filled _ rfl)
      cases writes with
      | object => exact lax.nullable nofun read

/-- The names of methods are read back, whatever they are, as long as there is one. -/
theorem list_of_methods (lax : validator.Lax) {methods : List String} (listed : methods ≠ []) :
    validator.list 1 (validator.text 0)
      (.array (methods.map fun method => Json.text (.ofString method))) = .ok methods := by
  refine lax.list (List.length_pos_iff.mpr listed) ?_
  rw [List.forall₂_map_left_iff, List.forall₂_same]
  exact fun method _ => lax.text (Nat.zero_le _)

/-- A proper entry is read back, with its rule or with null or nothing in place of one. -/
theorem entry_of_writes (lax : validator.Lax) {entry : MethodEntry}
    (writes : entry.Writes document) (proper : entry.Proper) :
    validator.entry document = .ok entry := by
  cases writes with
  | object methods rule =>
      refine map_eq_ok_iff.mpr ⟨(entry.methods, entry.rule, ()), lax.model ⟨?_, ?_, trivial⟩, rfl⟩
      · exact .written methods (lax.list_of_methods proper.listed)
      · exact rule.reads fun document writes => lax.nullable_of_writes writes proper.keyed

/-- Proper entries are read back in their order. -/
theorem list_of_entries (lax : validator.Lax) {entries : List MethodEntry}
    (writes : WritesEntries entries document) (proper : ∀ entry ∈ entries, entry.Proper) :
    validator.list 0 validator.entry document = .ok entries := by
  cases writes with
  | array each =>
      refine lax.list (Nat.zero_le _) ?_
      induction each with
      | nil => exact .nil
      | cons first _ ih =>
          obtain ⟨properFirst, properOthers⟩ := List.forall_mem_cons.mp proper
          exact .cons (lax.entry_of_writes first properFirst) (ih properOthers)

/-- A bound of one at least is read back. -/
theorem bound_of_writes (lax : validator.Lax) {n : Int} (writes : WritesNumber n document)
    (least : 1 ≤ n) : validator.integer 1 document = .ok n := by
  cases writes
  exact lax.integer least

/-- Proper bounds are read back, each of them written or left out. -/
theorem bounds_of_writes (lax : validator.Lax) {bounds : PoolBounds}
    (writes : bounds.Writes document) (proper : bounds.Proper) :
    validator.bounds document = .ok bounds := by
  cases writes with
  | object maxSize ceiling =>
      refine map_eq_ok_iff.mpr
        ⟨(bounds.maxSize, bounds.ceiling, ()), lax.model ⟨?_, ?_, trivial⟩, rfl⟩
      · exact maxSize.reads fun document writes => lax.bound_of_writes writes proper.maxSize
      · exact ceiling.reads fun document writes => lax.bound_of_writes writes proper.ceiling

/-- Proper settings come back from every document that writes them. -/
theorem settings_of_writes (lax : validator.Lax) {settings : Settings}
    (writes : settings.Writes document) (proper : settings.Proper) :
    validator.settings document = .ok settings := by
  cases writes with
  | object bounds entries =>
      refine map_eq_ok_iff.mpr
        ⟨(settings.bounds, settings.entries, ()), lax.model ⟨?_, ?_, trivial⟩, rfl⟩
      · exact bounds.reads fun document writes => lax.bounds_of_writes writes proper.bounds
      · exact entries.reads fun document writes => lax.list_of_entries writes proper.entries

end Validator.Lax

end AffinityPool.Settings
