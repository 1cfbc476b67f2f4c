/-
Module: AffinityPool.EventStream.Event
Purpose: The data of server-sent events, from lines and from octets that arrive in pieces.
Main exports:
  EventBuilder, EventReader, EventReader.feed, EventReader.finish
-/
import AffinityPool.EventStream.Lines
import AffinityPool.Text.Decoder

namespace AffinityPool

/-!
Each line names a field and gives it a value; a blank line ends an event.  Lines
that begin with a colon are comments.  An event that the body ends in the middle
of is dropped.  Only the data of events is kept: nobody asks for their kinds, for
their ids or for when to try again, nor for events without data.
-/

/-- The data of the event that is being read, one text for each data field. -/
structure EventBuilder where
  data : List String
deriving Repr, DecidableEq

namespace EventBuilder

/-- A builder at the start of a body. -/
def fresh : EventBuilder := ⟨[]⟩

/-- The data of the event, joined by line feeds, if it has any. -/
def event? (builder : EventBuilder) : Option String :=
  if builder.data.isEmpty then none else some (String.intercalate "\n" builder.data)

/-- Set a field.  All but the data are ignored. -/
def set (builder : EventBuilder) (name value : String) : EventBuilder :=
  if name = "data" then ⟨builder.data ++ [value]⟩ else builder

/-- The value of a field: what stands behind the colon, less one blank. -/
def fieldValue : List Char → List Char
  | ':' :: ' ' :: value => value
  | ':' :: value => value
  | _ => []

/-- Read a line.  A blank line gives the event and starts the next one. -/
def step (builder : EventBuilder) (line : List Char) : Option String × EventBuilder :=
  match line with
  | [] => (builder.event?, fresh)
  | ':' :: _ => (none, builder)
  | line =>
      let name := line.takeWhile (· ≠ ':')
      let value := fieldValue (line.drop name.length)
      (none, builder.set (String.ofList name) (String.ofList value))

/-- Read lines. -/
def feed : EventBuilder → List (List Char) → List String × EventBuilder
  | builder, [] => ([], builder)
  | builder, line :: rest =>
      let (event, next) := builder.step line
      let (events, last) := feed next rest
      (event.toList ++ events, last)

/-- Reading lines in two parts is reading them at once. -/
theorem feed_append (builder : EventBuilder) (first second : List (List Char)) :
    builder.feed (first ++ second) =
      ((builder.feed first).1 ++ ((builder.feed first).2.feed second).1,
        ((builder.feed first).2.feed second).2) := by
  induction first generalizing builder with
  | nil => simp [feed]
  | cons line rest ih => simp [feed, ih]

end EventBuilder

/-- A reader of events from octets. -/
structure EventReader where
  decoder : Text.Decoder
  lines : LineReader
  builder : EventBuilder
deriving Repr, DecidableEq

namespace EventReader

/-- A reader at the start of a body. -/
def fresh (decoder : Text.Decoder) : EventReader := ⟨decoder, .fresh, .fresh⟩

/-- Read decoded characters. -/
def feedChars (reader : EventReader) (chars : List Char) : List String × EventReader :=
  let (lines, lineReader) := reader.lines.feed chars
  let (events, builder) := reader.builder.feed lines
  (events, { reader with lines := lineReader, builder := builder })

/-- Read a piece of a body. -/
def feed (reader : EventReader) (octets : List UInt8) : List String × EventReader :=
  let (chars, decoder) := reader.decoder.feed octets
  { reader with decoder }.feedChars chars

/-- A piece without octets changes nothing. -/
theorem feed_nil (reader : EventReader) : reader.feed [] = ([], reader) := rfl

/-- Reading octets in two pieces is reading them at once. -/
theorem feed_append (reader : EventReader) (first second : List UInt8) :
    reader.feed (first ++ second) =
      ((reader.feed first).1 ++ ((reader.feed first).2.feed second).1,
        ((reader.feed first).2.feed second).2) := by
  simp [feed, Text.Decoder.feed_append, feedChars, LineReader.feed_append,
    EventBuilder.feed_append]

/-- The events that the end of a body completes, and the reader behind them. -/
def finish (reader : EventReader) : List String × EventReader :=
  let (chars, decoder) := reader.decoder.finish
  let (events, reader) := { reader with decoder }.feedChars chars
  let (lastEvents, builder) := reader.builder.feed reader.lines.finish
  (events ++ lastEvents, { reader with lines := .fresh, builder := builder })

/-- Why the text of a body is refused, if it is. -/
def refusal? (reader : EventReader) : Option Text.Refusal := reader.decoder.refusal?

/-- A reader of UTF-8. -/
def IsUtf8 (reader : EventReader) : Prop := ∃ state, reader.decoder = .utf8 state

/-- UTF-8 is never refused. -/
theorem IsUtf8.refusal?_eq_none {reader : EventReader} (isUtf8 : reader.IsUtf8) :
    reader.refusal? = none := by
  obtain ⟨state, same⟩ := isUtf8
  rw [refusal?, same]
  rfl

/-- A reader of UTF-8 goes on as one. -/
theorem IsUtf8.feed {reader : EventReader} (isUtf8 : reader.IsUtf8) (octets : List UInt8) :
    (reader.feed octets).2.IsUtf8 := by
  obtain ⟨state, same⟩ := isUtf8
  refine ⟨(Text.Utf8.feed state octets).2, ?_⟩
  simp only [EventReader.feed, feedChars, same, Text.Decoder.feed_utf8]

end EventReader

end AffinityPool
