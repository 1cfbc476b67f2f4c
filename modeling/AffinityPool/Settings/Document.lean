/-
Module: AffinityPool.Settings.Document
Purpose: Settings from the text of a JSON document.
Main exports:
  Settings.Library, Settings.Library.ofText, Settings.Library.ofOctets, Settings.dialect,
  Settings.library
-/
import AffinityPool.Json.Reader
import AffinityPool.Settings.Lax
import AffinityPool.Text.Utf8

namespace AffinityPool.Settings

/-!
Settings are read by a library that turns texts and octets into documents and
validates documents.  Loading and what callers get depend on the library only
through these functions.
-/

/-- A library that reads JSON documents and validates them. -/
structure Library where
  /-- The document of a text, if it is one. -/
  readText : List Char → Option Json
  /-- The document of some octets, if they are one. -/
  readOctets : List UInt8 → Option Json
  validator : Validator Json

/-- The issue of a text that is no document. -/
def notADocument : Failure := .invalidSettings [.here .notADocument]

namespace Library

variable (library : Library)

/-- Settings from a document, if there is one. -/
def ofDocument : Option Json → Except Failure Settings
  | none => .error notADocument
  | some document => (library.validator.settings document).mapError .invalidSettings

/-- Settings from the characters of a document. -/
def ofChars (chars : List Char) : Except Failure Settings :=
  library.ofDocument (library.readText chars)

/-- Settings from the text of a document. -/
def ofText (text : String) : Except Failure Settings := library.ofChars text.toList

/-- Settings from the octets of a document. -/
def ofOctets (octets : List UInt8) : Except Failure Settings :=
  library.ofDocument (library.readOctets octets)

end Library

/-! ### The library in use -/

/-- Settings documents nest at most 200 containers that have content, and escape
surrogates in pairs only. -/
def dialect : Json.Dialect :=
  { maxDepth := 200, countsEmpty := false, loneSurrogates := false, longFractions := false }

/-- The document of some characters. -/
def read? (chars : List Char) : Option Json := (Json.read dialect chars).toOption

/-- The library in use.  Octets must be UTF-8. -/
def library : Library where
  readText := read?
  readOctets octets := (Text.Utf8.decode? octets).bind read?
  validator := View.document.validator

end AffinityPool.Settings
