/-
Module: AffinityPool.Proofs.Settings.Loading
Purpose: What comes of settings in a file: the same as of their octets, and which failures.
Main exports:
  Text.LooseText.NamesFile, FilePath.mem_shown_parse_iff, Settings.ofFile_eq_ofOctets,
  Settings.Uniform, Settings.uniform
-/
import AffinityPool.Proofs.Json.LineEnds

namespace AffinityPool

open Text (LooseText Letter)

/-!
A file is opened, its octets are decoded, and its lines are unified before the document is read.
Unifying changes nothing for a reader that does not see how lines end, so octets that are text come
to the same in a file as by themselves.  What cannot be opened and what is no document are failures
of settings.  A path that no file can have and octets that are no text are failures of other kinds.
Which octets a path leads to, or why it leads to none, is said by the operating system, and nothing
is supposed about that.
-/

/-! ### Paths -/

/-- A text that can be the name of a file: all of it has octets, and none of them is a NUL. -/
structure Text.LooseText.NamesFile (path : LooseText) : Prop where
  encodable : ∀ letter ∈ path.letters, letter.hasOctets = true
  plain : .char '\x00' ∉ path.letters

namespace FilePath

variable {letter : Letter}

/-- The start of a path has slashes only. -/
theorem notMem_rootOf (slash : letter ≠ .char '/') (letters : List Letter) :
    letter ∉ rootOf letters := by
  unfold rootOf
  split <;> simp [slash]

/-- The text of a path has the letters of its components, between slashes. -/
theorem mem_shown_iff {path : FilePath} (dot : letter ≠ .char '.') (slash : letter ≠ .char '/')
    (rooted : letter ∉ path.root) :
    letter ∈ path.shown.letters ↔ ∃ component ∈ path.components, letter ∈ component := by
  have whole : letter ∈ path.root ++ Text.joined (.char '/') path.components ↔
      ∃ component ∈ path.components, letter ∈ component := by
    rw [List.mem_append, or_iff_right rooted]
    constructor
    · intro member
      exact (Text.mem_joined member).resolve_left slash
    · rintro ⟨component, known, inside⟩
      exact Text.mem_joined_of_mem known inside
  simp only [shown]
  split
  · rename_i empty
    rw [List.isEmpty_iff.mp empty] at whole
    simpa [dot] using whole
  · exact whole

/-- A path shows the letters of the text it was taken from, dots and slashes apart. -/
theorem mem_shown_parse_iff (dot : letter ≠ .char '.') (slash : letter ≠ .char '/')
    (text : LooseText) : letter ∈ (parse text).shown.letters ↔ letter ∈ text.letters := by
  rw [mem_shown_iff dot slash (notMem_rootOf slash _)]
  constructor
  · rintro ⟨component, member, inside⟩
    rw [← Text.joined_pieces (.char '/') text.letters]
    exact Text.mem_joined_of_mem (List.mem_filter.mp member).1 inside
  · intro member
    rw [← Text.joined_pieces (.char '/') text.letters] at member
    obtain ⟨piece, among, inside⟩ := (Text.mem_joined member).resolve_left slash
    refine ⟨piece, List.mem_filter.mpr ⟨among, ?_⟩, inside⟩
    -- The components that are left out have no other letters than dots.
    have filled : piece ≠ [] := List.ne_nil_of_mem inside
    have named : piece ≠ [.char '.'] := by
      rintro rfl
      exact dot (List.mem_singleton.mp inside)
    simp [filled, named]

/-- A path has octets throughout if the text that it was taken from has. -/
theorem hasOctets_shown_parse_iff (text : LooseText) :
    (∀ letter ∈ (parse text).shown.letters, letter.hasOctets = true) ↔
      ∀ letter ∈ text.letters, letter.hasOctets = true := by
  have apart : ∀ letter : Letter, letter.hasOctets ≠ true →
      (letter ∈ (parse text).shown.letters ↔ letter ∈ text.letters) := by
    intro letter bare
    refine mem_shown_parse_iff ?_ ?_ text
    · rintro rfl
      exact bare rfl
    · rintro rfl
      exact bare rfl
  constructor
  · intro all letter member
    refine Decidable.byContradiction fun bare => bare ?_
    exact all letter ((apart letter bare).mpr member)
  · intro all letter member
    refine Decidable.byContradiction fun bare => bare ?_
    exact all letter ((apart letter bare).mp member)

end FilePath

namespace Settings

variable {library : Library} {system : FilePath → Except SystemError (List UInt8)}
  {path : LooseText} {octets : List UInt8} {chars : List Char}

/-! ### Settings from a file -/

/-- Taking a path apart hides no half in it. -/
theorem firstUnencodable?_parse_eq_none :
    Text.firstUnencodable? (FilePath.parse path).shown = none ↔
      ∀ letter ∈ path.letters, letter.hasOctets = true :=
  Text.firstUnencodable?_eq_none.trans (FilePath.hasOctets_shown_parse_iff path)

/-- Taking a path apart hides no NUL in it. -/
theorem contains_nul_iff :
    (FilePath.parse path).shown.letters.contains (.char '\x00') = true ↔
      .char '\x00' ∈ path.letters := by
  rw [List.contains_iff_mem, FilePath.mem_shown_parse_iff (by decide) (by decide)]

/-- A path with halves that have no octets is refused before anything else is looked at. -/
theorem ofFile_of_unencodable {run : Text.Unencodable}
    (bare : Text.firstUnencodable? (FilePath.parse path).shown = some run) :
    ofFile library system path = .error (.unencodablePath run) := by
  simp only [ofFile, bare]

/-- A path with a NUL in it is refused before the system is asked. -/
theorem ofFile_of_nul (encodable : ∀ letter ∈ path.letters, letter.hasOctets = true)
    (nul : .char '\x00' ∈ path.letters) : ofFile library system path = .error .nulInPath := by
  simp only [ofFile, firstUnencodable?_parse_eq_none.mpr encodable]
  rw [if_pos (contains_nul_iff.mpr nul)]

/-- Any other path goes to the system, and then its octets count. -/
theorem ofFile_of_namesFile (names : path.NamesFile) :
    ofFile library system path =
      match system (FilePath.parse path) with
      | .error error => .error (.unreadableSettings (FilePath.parse path).shown error)
      | .ok octets =>
          match Text.Utf8.decode? octets with
          | none => .error .undecodableText
          | some chars => library.ofChars (unifyLineEnds chars) := by
  simp only [ofFile, firstUnencodable?_parse_eq_none.mpr names.encodable]
  exact if_neg fun nul => names.plain (contains_nul_iff.mp nul)

/-! ### Files and octets -/

/-- Octets that are text come to the same settings, or to the same issues, from a file as by
themselves, although the lines of a file are unified before it is read.  The reader does not see how
lines end, and octets are read as the text that they are. -/
theorem ofFile_eq_ofOctets (blind : Json.LineBlind library.readText)
    (alike : ∀ octets chars, Text.Utf8.decode? octets = some chars →
      library.readOctets octets = library.readText chars)
    (names : path.NamesFile) (found : system (FilePath.parse path) = .ok octets)
    (text : Text.Utf8.decode? octets = some chars) :
    ofFile library system path = library.ofOctets octets := by
  rw [ofFile_of_namesFile names, found]
  simp only [text]
  rw [Library.ofChars, blind.read_unifyLineEnds, Library.ofOctets, alike octets chars text]

/-- The reader in use does not see how lines end. -/
theorem lineBlind_library : Json.LineBlind Settings.library.readText := Json.lineBlind_read dialect

/-- The reader in use reads octets as the text that they are. -/
theorem readOctets_library {octets : List UInt8} {chars : List Char}
    (text : Text.Utf8.decode? octets = some chars) :
    Settings.library.readOctets octets = Settings.library.readText chars := by
  simp only [library, text, Option.bind_some]

/-- Octets with lines that end in both characters and in a carriage return alone. -/
def mixedLines : List UInt8 := [0x7B, 0x0D, 0x0A, 0x22, 0x61, 0x22, 0x3A, 0x0D, 0x30, 0x7D]

/-- The lines of a file below a directory, read by the library in use. -/
theorem ofFile_eq_ofOctets_lines :
    ofFile Settings.library (FileTree.ofFiles [("d/c.json", mixedLines)]).system "./d//c.json" =
      Settings.library.ofOctets mixedLines ∧
    Settings.library.ofOctets mixedLines = .ok standard :=
  ⟨ofFile_eq_ofOctets lineBlind_library (fun _ _ text => readOctets_library text)
    ⟨by decide, by decide⟩ rfl (show _ = some "\x7b\r\n\"a\":\r0\x7d".toList from rfl), rfl⟩

/-! ### The failures of a file -/

/-- Whatever is read as a document or not, there are settings of it or issues. -/
theorem Library.ofDocument_ok_or_invalid (library : Library) (read : Option Json) :
    (∃ settings, library.ofDocument read = .ok settings) ∨
      ∃ issues, library.ofDocument read = .error (.invalidSettings issues) := by
  cases read with
  | none => exact Or.inr ⟨_, rfl⟩
  | some document =>
      simp only [Library.ofDocument]
      cases library.validator.settings document with
      | error issues => exact Or.inr ⟨issues, rfl⟩
      | ok settings => exact Or.inl ⟨settings, rfl⟩

/-- The ways that reading settings from a file can go, each with its outcome. -/
inductive Loading (system : FilePath → Except SystemError (List UInt8)) (path : LooseText) :
    Except Failure Settings → Prop where
  | unencodable (run : Text.Unencodable)
      (bare : ¬∀ letter ∈ path.letters, letter.hasOctets = true) :
      Loading system path (.error (.unencodablePath run))
  | nul (encodable : ∀ letter ∈ path.letters, letter.hasOctets = true)
      (inPath : .char '\x00' ∈ path.letters) : Loading system path (.error .nulInPath)
  | unreadable (names : path.NamesFile) (error : SystemError)
      (closed : system (FilePath.parse path) = .error error) :
      Loading system path (.error (.unreadableSettings (FilePath.parse path).shown error))
  | undecodable (names : path.NamesFile) (octets : List UInt8)
      (found : system (FilePath.parse path) = .ok octets)
      (noText : Text.Utf8.decode? octets = none) : Loading system path (.error .undecodableText)
  | read (names : path.NamesFile) (octets : List UInt8) (chars : List Char)
      (found : system (FilePath.parse path) = .ok octets)
      (text : Text.Utf8.decode? octets = some chars) (settings : Settings) :
      Loading system path (.ok settings)
  | invalid (names : path.NamesFile) (octets : List UInt8) (chars : List Char)
      (found : system (FilePath.parse path) = .ok octets)
      (text : Text.Utf8.decode? octets = some chars) (issues : List Issue) :
      Loading system path (.error (.invalidSettings issues))

/-- Reading settings from a file goes one of these ways. -/
theorem loading (library : Library) (system : FilePath → Except SystemError (List UInt8))
    (path : LooseText) : Loading system path (ofFile library system path) := by
  cases bare : Text.firstUnencodable? (FilePath.parse path).shown with
  | some run =>
      rw [ofFile_of_unencodable bare]
      refine .unencodable run fun encodable => ?_
      cases bare.symm.trans (firstUnencodable?_parse_eq_none.mpr encodable)
  | none =>
      have encodable := firstUnencodable?_parse_eq_none.mp bare
      by_cases nul : .char '\x00' ∈ path.letters
      · rw [ofFile_of_nul encodable nul]
        exact .nul encodable nul
      · have names : path.NamesFile := ⟨encodable, nul⟩
        rw [ofFile_of_namesFile names]
        cases found : system (FilePath.parse path) with
        | error error => exact .unreadable names error found
        | ok octets =>
            cases text : Text.Utf8.decode? octets with
            | none =>
                simp only [text]
                exact .undecodable names octets found text
            | some chars =>
                simp only [text, Library.ofChars]
                have outcome := library.ofDocument_ok_or_invalid
                  (library.readText (unifyLineEnds chars))
                rcases outcome with ⟨settings, same⟩ | ⟨issues, same⟩
                · rw [same]
                  exact .read names octets chars found text settings
                · rw [same]
                  exact .invalid names octets chars found text issues

namespace Loading

variable {outcome : Except Failure Settings}

/-- There are settings, or a failure of settings, exactly where a path names a file whose octets,
if it has any, are text. -/
theorem covered_iff (course : Loading system path outcome) :
    ((∃ settings, outcome = .ok settings) ∨
        ∃ failure, outcome = .error failure ∧ failure.isConfiguration = true) ↔
      path.NamesFile ∧ ∀ octets, system (FilePath.parse path) = .ok octets →
        ∃ chars, Text.Utf8.decode? octets = some chars := by
  cases course with
  | unencodable run bare =>
      have nameless : ¬path.NamesFile := fun names => bare names.encodable
      simp [nameless, Failure.isConfiguration]
  | nul encodable inPath =>
      have nameless : ¬path.NamesFile := fun names => names.plain inPath
      simp [nameless, Failure.isConfiguration]
  | unreadable names error closed => simp [names, closed, Failure.isConfiguration]
  | undecodable names octets found noText =>
      simp [names, found, noText, Failure.isConfiguration]
  | read names octets chars found text settings => simp [names, found, text]
  | invalid names octets chars found text issues =>
      simp [names, found, text, Failure.isConfiguration]

/-- A failure for halves in the path comes exactly where some have no octets. -/
theorem unencodable_iff (course : Loading system path outcome) :
    (∃ run, outcome = .error (.unencodablePath run)) ↔
      ¬∀ letter ∈ path.letters, letter.hasOctets = true := by
  cases course with
  | unencodable run bare => exact ⟨fun _ => bare, fun _ => ⟨run, rfl⟩⟩
  | nul encodable inPath => simpa using encodable
  | unreadable names error closed => simpa using names.encodable
  | undecodable names octets found noText => simpa using names.encodable
  | read names octets chars found text settings => simpa using names.encodable
  | invalid names octets chars found text issues => simpa using names.encodable

/-- A failure for a NUL in the path comes exactly where one is, and nothing worse. -/
theorem nul_iff (course : Loading system path outcome) :
    outcome = .error .nulInPath ↔
      (∀ letter ∈ path.letters, letter.hasOctets = true) ∧ .char '\x00' ∈ path.letters := by
  cases course with
  | unencodable run bare => exact ⟨nofun, fun named => absurd named.1 bare⟩
  | nul encodable inPath => exact ⟨fun _ => ⟨encodable, inPath⟩, fun _ => rfl⟩
  | unreadable names error closed => exact ⟨nofun, fun named => absurd named.2 names.plain⟩
  | undecodable names octets found noText =>
      exact ⟨nofun, fun named => absurd named.2 names.plain⟩
  | read names octets chars found text settings =>
      exact ⟨nofun, fun named => absurd named.2 names.plain⟩
  | invalid names octets chars found text issues =>
      exact ⟨nofun, fun named => absurd named.2 names.plain⟩

/-- A failure for octets that are no text comes exactly where a file has such octets. -/
theorem undecodable_iff (course : Loading system path outcome) :
    outcome = .error .undecodableText ↔
      path.NamesFile ∧ ∃ octets, system (FilePath.parse path) = .ok octets ∧
        Text.Utf8.decode? octets = none := by
  cases course with
  | unencodable run bare => exact ⟨nofun, fun held => absurd held.1.encodable bare⟩
  | nul encodable inPath => exact ⟨nofun, fun held => absurd inPath held.1.plain⟩
  | unreadable names error closed => simp [closed]
  | undecodable names octets found noText => simp [names, found, noText]
  | read names octets chars found text settings => simp [found, text]
  | invalid names octets chars found text issues => simp [found, text]

end Loading

/-- What can come of settings in a file. -/
structure Uniform (library : Library) (system : FilePath → Except SystemError (List UInt8))
    (path : LooseText) : Prop where
  /-- There are settings, or a failure of settings, exactly if the path can name a file and the
  octets of the file, where there is one, are text. -/
  covered : ((∃ settings, ofFile library system path = .ok settings) ∨
      ∃ failure, ofFile library system path = .error failure ∧ failure.isConfiguration = true) ↔
    path.NamesFile ∧ ∀ octets, system (FilePath.parse path) = .ok octets →
      ∃ chars, Text.Utf8.decode? octets = some chars
  /-- A path without octets for all of it fails as such, whatever files there are. -/
  unencodable : (∃ run, ofFile library system path = .error (.unencodablePath run)) ↔
    ¬∀ letter ∈ path.letters, letter.hasOctets = true
  /-- Any other path with a NUL in it fails as such, whatever files there are. -/
  nul : ofFile library system path = .error .nulInPath ↔
    (∀ letter ∈ path.letters, letter.hasOctets = true) ∧ .char '\x00' ∈ path.letters
  /-- Octets that are no text fail as such. -/
  undecodable : ofFile library system path = .error .undecodableText ↔
    path.NamesFile ∧ ∃ octets, system (FilePath.parse path) = .ok octets ∧
      Text.Utf8.decode? octets = none
  /-- What keeps a file from being read is told with the path. -/
  unreadable : path.NamesFile → ∀ error, system (FilePath.parse path) = .error error →
    ofFile library system path = .error (.unreadableSettings (FilePath.parse path).shown error)
  /-- Octets by themselves are settings, or they fail as settings, whatever they are. -/
  parsed : ∀ octets, (∃ settings, library.ofOctets octets = .ok settings) ∨
    ∃ failure, library.ofOctets octets = .error failure ∧ failure.isConfiguration = true

/-- Reading settings from a file fails as settings do, but for paths that name no file and octets
that are no text. -/
theorem uniform (library : Library) (system : FilePath → Except SystemError (List UInt8))
    (path : LooseText) : Uniform library system path where
  covered := (loading library system path).covered_iff
  unencodable := (loading library system path).unencodable_iff
  nul := (loading library system path).nul_iff
  undecodable := (loading library system path).undecodable_iff
  unreadable names error closed := by
    rw [ofFile_of_namesFile names, closed]
  parsed octets := by
    rcases library.ofDocument_ok_or_invalid (library.readOctets octets) with
      ⟨settings, same⟩ | ⟨issues, same⟩
    · exact Or.inl ⟨settings, same⟩
    · exact Or.inr ⟨_, same, rfl⟩

/-- Octets that are no text, a path with a NUL in it, and one with half of a surrogate pair: neither
settings nor a failure of settings, although the octets by themselves fail as settings. -/
theorem undecodable_file_escapes :
    ofFile Settings.library (FileTree.ofFiles [("c.json", [0xFF])]).system "c.json" =
        .error .undecodableText ∧
      ofFile Settings.library (FileTree.ofFiles []).system "c\x00.json" = .error .nulInPath ∧
      ofFile Settings.library (FileTree.ofFiles []).system ⟨[.half 0xD800]⟩ =
        .error (.unencodablePath ⟨0xD800, 0, 0⟩) ∧
      Failure.undecodableText.isConfiguration = false ∧ Failure.nulInPath.isConfiguration = false ∧
      (Failure.unencodablePath ⟨0xD800, 0, 0⟩).isConfiguration = false ∧
      Settings.library.ofOctets [0xFF] = .error notADocument :=
  ⟨rfl, rfl, rfl, rfl, rfl, rfl, rfl⟩

end Settings
end AffinityPool
