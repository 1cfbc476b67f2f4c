/-
Module: AffinityPool.Http.Header
Purpose: Headers as lists of names and values.
Main exports:
  Headers, Headers.set, Headers.put, Headers.values, Headers.value, GivenHeaders,
  GivenHeaders.written
-/
import AffinityPool.Failure

namespace AffinityPool.Http

/-- Headers in order: names and values. -/
abbrev Headers := List (String × String)

namespace Headers

/-- Put a header in place of all headers of its name, which is in lower case as
all the others are. -/
def put (headers : Headers) (name value : String) : Headers :=
  headers.filter (·.1 ≠ name) ++ [(name, value)]

/-- Whether a header goes in front of another one. -/
def le (a b : String × String) : Bool := a.1 < b.1 || (a.1 = b.1 && a.2 ≤ b.2)

/-- The values of a header.  Names are told apart without case. -/
def values (headers : Headers) (name : String) : List String :=
  (headers.filter fun header => header.1.toLower = name).map (·.2)

/-- The values of a header as one. -/
def value (headers : Headers) (name : String) : String :=
  String.intercalate ", " (headers.values name)

end Headers

/-- Headers as they are asked for, with values of any kind. -/
abbrev GivenHeaders := List (String × Message)

namespace GivenHeaders

/-- Set a header.  Names are told apart exactly, and a name that is there keeps
its place. -/
def set : GivenHeaders → String × Message → GivenHeaders
  | [], header => [header]
  | first :: rest, header =>
      if first.1 = header.1 then header :: rest else first :: set rest header

/-- A part of a header as it is written. -/
def writtenPart (text : String) : Except Failure String :=
  match Text.firstUnwritable? text with
  | some run => .error (.notAscii run)
  | none => .ok text

/-- Headers as they are written: names and values must be ASCII texts. -/
def written (headers : GivenHeaders) : Except Failure Headers :=
  headers.mapM fun (name, value) => do
    let name ← writtenPart name
    match value with
    | .text value =>
        let value ← writtenPart value
        .ok (name, value)
    | _ => .error .headerNotText

end GivenHeaders

end AffinityPool.Http
