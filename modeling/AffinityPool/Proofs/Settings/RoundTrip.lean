/-
Module: AffinityPool.Proofs.Settings.RoundTrip
Purpose: Settings come back from every document that writes them, and make a hub with their bounds.
Main exports:
  Settings.RoundTrips, Settings.roundTrips, Settings.ofText_page, Settings.exists_text_of_proper
-/
import AffinityPool.Hub.Construction
import AffinityPool.Proofs.Settings.Lax
import AffinityPool.Proofs.Settings.Writable

namespace AffinityPool.Settings

open Text (LooseText)

/-!
What is read from a text or from octets is what the library makes of their document, so the laws of
its validation carry over to both.  What texts the library takes for documents is its own affair.
The one in use is known better: it reads every page that is not too deep and whose numbers are not
too long, and proper settings are written by such a page.
-/

variable {library : Library} {settings : Settings}

/-! ### Texts and octets -/

/-- Settings of a document are what the validation makes of it. -/
theorem Library.ofDocument_eq_ok_iff {read : Option Json} :
    library.ofDocument read = .ok settings ↔
      ∃ document, read = some document ∧ library.validator.settings document = .ok settings := by
  cases read with
  | none => simp [Library.ofDocument]
  | some document =>
      cases checked : library.validator.settings document <;>
        simp [Library.ofDocument, checked, Except.mapError]

/-- Whatever settings a library makes of a text or of octets are proper. -/
theorem proper_of_ofDocument (lax : library.validator.Lax) {read : Option Json}
    (made : library.ofDocument read = .ok settings) : settings.Proper := by
  obtain ⟨document, -, checked⟩ := Library.ofDocument_eq_ok_iff.mp made
  exact lax.proper_of_settings checked

/-- The library in use reads texts in its dialect. -/
theorem readText_library (chars : List Char) :
    Settings.library.readText chars = (Json.read dialect chars).toOption := rfl

/-! ### Hubs -/

/-- Proper bounds are the limits of a pool, as they are. -/
theorem PoolBounds.Proper.exists_limits {bounds : PoolBounds} (proper : bounds.Proper) :
    ∃ limits, Limits.make bounds.maxSize bounds.ceiling = .ok limits ∧
      (limits.maxSize : Int) = bounds.maxSize ∧ (limits.ceiling : Int) = bounds.ceiling := by
  have size := proper.maxSize
  have streams := proper.ceiling
  rw [Limits.make, dif_neg (by omega), dif_neg (by omega)]
  refine ⟨_, rfl, ?_, ?_⟩ <;> simp only <;> omega

/-- A hub is made of a rule table, and its bounds do not stand in the way. -/
theorem ofSettings_eq_map {limits : Limits}
    (bounds : Limits.make settings.bounds.maxSize settings.bounds.ceiling = .ok limits) :
    Hub.ofSettings settings = settings.table.map fun table => Hub.fresh table limits := by
  rw [Hub.ofSettings, Hub.make, bounds, table]
  cases RuleTable.build settings.rules <;> rfl

/-! ### There and back -/

/-- What becomes of settings in documents and in hubs. -/
structure RoundTrips (library : Library) (settings : Settings) : Prop where
  /-- Proper settings come back from every text and from all octets that the library takes for a
  document that writes them. -/
  back : settings.Proper → ∀ document, settings.Writes document →
    (∀ text, library.readText text.toList = some document → library.ofText text = .ok settings) ∧
      ∀ octets, library.readOctets octets = some document → library.ofOctets octets = .ok settings
  /-- Settings that come from a text or from octets are proper. -/
  proper : (∃ text, library.ofText text = .ok settings) ∨
    (∃ octets, library.ofOctets octets = .ok settings) → settings.Proper
  /-- Of proper settings a hub is made as soon as there is a rule table, and its pool has exactly
  the bounds of the settings. -/
  hub : settings.Proper → ∃ limits : Limits, (limits.maxSize : Int) = settings.bounds.maxSize ∧
    (limits.ceiling : Int) = settings.bounds.ceiling ∧
    Hub.ofSettings settings = settings.table.map fun table => Hub.fresh table limits

/-- Settings survive being written, in whatever way, and being read by a library that keeps to the
laws. -/
theorem roundTrips (lax : library.validator.Lax) (settings : Settings) :
    RoundTrips library settings where
  back proper document writes := by
    have checked := lax.settings_of_writes writes proper
    exact ⟨fun text read => Library.ofDocument_eq_ok_iff.mpr ⟨document, read, checked⟩,
      fun octets read => Library.ofDocument_eq_ok_iff.mpr ⟨document, read, checked⟩⟩
  proper made := by
    rcases made with ⟨text, made⟩ | ⟨octets, made⟩
    · exact proper_of_ofDocument lax made
    · exact proper_of_ofDocument lax made
  hub proper := by
    obtain ⟨limits, made, size, streams⟩ := proper.bounds.exists_limits
    exact ⟨limits, size, streams, ofSettings_eq_map made⟩

/-- Settings with a bound, a rule and an entry without one. -/
def twoEntries : Settings :=
  ⟨⟨4, 100⟩, [⟨["Open"], some ⟨.bind, "id"⟩⟩, ⟨["Look", "Walk"], none⟩]⟩

/-- A text with names of both kinds, in another order, with null, with a member that is no field and
without what stands for a standard value. -/
def twoEntriesText : String :=
  "\x7b\"method\":[\x7b\"affinity\":\x7b\"affinity_key\":\"id\",\"command\":\"BIND\"\x7d," ++
    "\"name\":[\"Open\"]\x7d,\x7b\"name\":[\"Look\",\"Walk\"],\"affinity\":null\x7d]," ++
    "\"junk\":[],\"channelPool\":\x7b\"max_size\":4\x7d\x7d"

/-- The document of that text. -/
def twoEntriesDocument : Json :=
  .object
    [("method", .array
      [.object
        [("affinity", .object [("affinity_key", .text "id"), ("command", .text "BIND")]),
          ("name", .array [.text "Open"])],
        .object [("name", .array [.text "Look", .text "Walk"]), ("affinity", .null)]]),
      ("junk", .array []),
      ("channelPool", .object [("max_size", .int 4)])]

theorem proper_twoEntries : twoEntries.Proper where
  bounds := ⟨by decide, by decide⟩
  entries := by
    intro entry member
    rcases List.mem_pair.mp member with rfl | rfl
    · refine ⟨nofun, fun rule held => ?_⟩
      cases held
      decide
    · exact ⟨nofun, nofun⟩

/-- The document writes those settings. -/
theorem twoEntries_writes : twoEntries.Writes twoEntriesDocument := by
  refine .object (.written (.object (.written (.int 4)) .absent)) (.written (.array ?_))
  refine .cons (.object rfl (.written (.rule (.object rfl .bind rfl)))) (.cons ?_ .nil)
  exact .object rfl (.written .null)

theorem tokens_twoEntriesText : Json.tokens (twoEntriesText.toList.map .char) =
    [.openObject, .text "method", .colon, .openArray,
      .openObject, .text "affinity", .colon, .openObject, .text "affinity_key", .colon, .text "id",
        .comma, .text "command", .colon, .text "BIND", .closeObject, .comma,
        .text "name", .colon, .openArray, .text "Open", .closeArray, .closeObject, .comma,
      .openObject, .text "name", .colon, .openArray, .text "Look", .comma, .text "Walk",
        .closeArray, .comma, .text "affinity", .colon, .null, .closeObject, .closeArray, .comma,
      .text "junk", .colon, .openArray, .closeArray, .comma,
      .text "channelPool", .colon, .openObject, .text "max_size", .colon,
        .number ⟨false, ['4'], none, none⟩, .closeObject, .closeObject] := by
  decide +kernel

/-- The library in use takes the text for that document. -/
theorem readText_twoEntries : Settings.library.readText twoEntriesText.toList =
    some twoEntriesDocument := by
  rw [readText_library, Json.read, Json.readLetters, tokens_twoEntriesText]
  rfl

/-- Settings that come back from a text in the library in use, and the pool they make. -/
theorem two_entries_come_back :
    View.document.validator.Lax ∧ twoEntries.Proper ∧ twoEntries.Writes twoEntriesDocument ∧
      Settings.library.ofText twoEntriesText = .ok twoEntries :=
  ⟨lax_document, proper_twoEntries, twoEntries_writes,
    ((roundTrips (@lax_document : Settings.library.validator.Lax) twoEntries).back
      proper_twoEntries _ twoEntries_writes).1 _ readText_twoEntries⟩

/-! ### A document that is refused -/

/-- An object with half of a surrogate pair in a member that is no field. -/
def halfText : String := "\x7b\"m\":\"\\ud800\"\x7d"

/-- An object with no field in it writes the standard settings. -/
theorem standard_writes_mark (document : Json) :
    standard.Writes (.object [(.ofString "m", document)]) :=
  .object .absent .absent

theorem tokens_halfText : Json.tokens (halfText.toList.map .char) =
    [.openObject, .text (.ofString "m"), .colon, .text ⟨[.half 0xD800]⟩, .closeObject] := by decide

theorem ofText_halfText : Settings.library.ofText halfText = .error notADocument := by
  rw [Library.ofText, Library.ofChars, readText_library, Json.read, Json.readLetters,
    tokens_halfText]
  rfl

/-- A reader that allows halves by themselves takes the text for a document. -/
theorem read_halfText : Json.read { dialect with loneSurrogates := true } halfText.toList =
    .ok (.object [(.ofString "m", .text ⟨[.half 0xD800]⟩)]) := by
  rw [Json.read, Json.readLetters, tokens_halfText]
  rfl

/-- Standard settings in a text that the library in use refuses for half of a surrogate pair in a
member that is no field.  It is a document for other readers. -/
theorem half_in_other_member_refused :
    standard.Proper ∧ ∃ document,
      Json.read { dialect with loneSurrogates := true } halfText.toList = .ok document ∧
        standard.Writes document ∧ Settings.library.ofText halfText = .error notADocument :=
  ⟨⟨PoolBounds.proper_standard, nofun⟩, _, read_halfText, standard_writes_mark _, ofText_halfText⟩

/-! ### Texts of the library in use -/

/-- Proper settings come back from every page that writes them, unless its containers are too deep
or its numbers too long for the library in use. -/
theorem ofText_page {page : Json.Page} (writes : settings.Writes page.value)
    (proper : settings.Proper) (short : page.script.Short)
    (room : page.script.depth dialect.countsEmpty ≤ dialect.maxDepth) :
    Settings.library.ofText (String.ofList page.chars) = .ok settings := by
  have checked := lax_document.settings_of_writes writes proper
  refine Library.ofDocument_eq_ok_iff.mpr ⟨page.value, ?_, checked⟩
  rw [readText_library, String.toList_ofList, page.read short room]
  rfl

/-- There is a text for proper settings, unless their bounds are too long themselves. -/
theorem exists_text_of_proper (proper : settings.Proper)
    (size : settings.bounds.maxSize < 10 ^ Text.maxIntegerDigits)
    (streams : settings.bounds.ceiling < 10 ^ Text.maxIntegerDigits) :
    ∃ text, Settings.library.ofText text = .ok settings := by
  obtain ⟨page, writes, short, room⟩ := exists_page proper size streams
  exact ⟨_, ofText_page writes proper short room⟩

end AffinityPool.Settings
