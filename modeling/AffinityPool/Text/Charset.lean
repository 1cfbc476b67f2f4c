/-
Module: AffinityPool.Text.Charset
Purpose: The names of character sets.
Main exports:
  Charset.plainName, Charset.decoder?
-/
import AffinityPool.Text.Decoder

namespace AffinityPool.Text.Charset

/-!
Names are compared by their letters, digits and dots; whatever stands between
those counts as one underscore, and nothing counts at the ends.  A set has one
name of its own and aliases, in which a dot may stand for an underscore.
-/

/-- Whether a character counts in names. -/
def isNameChar (c : Char) : Bool := c.isAlphanum || c = '.'

/-- The words of a name, each of characters that count. -/
def words : List Char → List (List Char)
  | [] => [[]]
  | c :: rest =>
      if isNameChar c then
        match words rest with
        | word :: others => (c.toLower :: word) :: others
        | [] => [[c.toLower]]
      else [] :: words rest

/-- A name in the form in which names are compared. -/
def plainName (name : String) : String :=
  String.intercalate "_" (((words name.toList).filter (!·.isEmpty)).map String.ofList)

/-- Sets that are no tables: their names, their aliases and how to read them. -/
def machines : List (String × List String × Decoder) :=
  [("utf_8", ["cp65001", "u8", "utf", "utf8", "utf8_ucs2", "utf8_ucs4"], .utf8 .between),
   ("utf_8_sig", [], .utf8Marked []),
   ("utf_7", ["u7", "unicode_1_1_utf_7", "utf7"], .utf7 .direct),
   ("utf_16", ["u16", "utf16"], .wide .utf16 none []),
   ("utf_16_be", ["unicodebigunmarked", "utf_16be"], .wide .utf16 (some .big) []),
   ("utf_16_le", ["unicodelittleunmarked", "utf_16le"], .wide .utf16 (some .little) []),
   ("utf_32", ["u32", "utf32"], .wide .utf32 none []),
   ("utf_32_be", ["utf_32be"], .wide .utf32 (some .big) []),
   ("utf_32_le", ["utf_32le"], .wide .utf32 (some .little) []),
   ("unicode_escape", [], .escaped .all []),
   ("raw_unicode_escape", [], .escaped .numbers []),
   ("base64_codec", ["base64", "base_64"], .refusing .octetsOnly),
   ("bz2_codec", ["bz2"], .refusing .octetsOnly),
   ("hex_codec", ["hex"], .refusing .octetsOnly),
   ("quopri_codec", ["quopri", "quoted_printable", "quotedprintable"], .refusing .octetsOnly),
   ("uu_codec", ["uu"], .refusing .octetsOnly),
   ("zlib_codec", ["zip", "zlib"], .refusing .octetsOnly),
   ("rot_13", ["rot13"], .refusing .charactersOnly),
   ("idna", [], .refusing .strictOnly),
   ("undefined", [], .refusing .undefined)]

/-- All sets: their names, their aliases and how to read them. -/
def all : List (String × List String × Decoder) :=
  machines ++
    (EastAsian.named.map fun (name, aliases, set) => (name, aliases, .eastAsian set [])) ++
    (Switched.named.map fun (name, aliases, set) => (name, aliases, .switched set [])) ++
    CodePage.all.map fun page => (page.name, page.aliases, .page page)

/-- How to read the set with an alias. -/
def ofAlias? (name : String) : Option Decoder :=
  (all.find? (·.2.1.contains name)).map (·.2.2)

/-- How to read the set with a name of its own. -/
def ofOwnName? (name : String) : Option Decoder := (all.find? (·.1 = name)).map (·.2.2)

/-- How to read the set of a name, if there is one. -/
def decoder? (name : String) : Option Decoder :=
  let name := plainName name
  let dotless := name.map fun c => if c = '.' then '_' else c
  ((ofAlias? name).or (ofAlias? dotless)).or (ofOwnName? name)

end AffinityPool.Text.Charset
