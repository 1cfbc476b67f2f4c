/-
Module: AffinityPool.EventStream.Lines
Purpose: Lines of a text that arrives in pieces.
Main exports:
  LineReader, LineReader.feed, LineReader.finish
-/

namespace AffinityPool

/-!
A line ends with a line feed, a carriage return, or both in this order.  Whether
a carriage return ends a line alone is known only when the next character is
there, so the end of such a line waits for it, across pieces if need be.
-/

/-- The line that is being read. -/
structure LineReader where
  /-- The characters of the line so far, the last one first. -/
  reversed : List Char
  /-- The line has ended with a carriage return, to which a line feed may
  still belong. -/
  returned : Bool
deriving Repr, DecidableEq

namespace LineReader

/-- A reader at the start of a text. -/
def fresh : LineReader := ⟨[], false⟩

/-- The line so far. -/
def line (reader : LineReader) : List Char := reader.reversed.reverse

/-- Read one character of a line that has not ended. -/
def read (reversed : List Char) (c : Char) : List (List Char) × LineReader :=
  if c = '\n' then ([reversed.reverse], fresh)
  else if c = '\r' then ([], ⟨reversed, true⟩)
  else ([], ⟨c :: reversed, false⟩)

/-- Read one character.  The result begins with the line that it completes. -/
def step (reader : LineReader) (c : Char) : List (List Char) × LineReader :=
  if reader.returned then
    if c = '\n' then ([reader.line], fresh)
    else
      let (lines, next) := read [] c
      (reader.line :: lines, next)
  else read reader.reversed c

/-- Read a piece of text. -/
def feed : LineReader → List Char → List (List Char) × LineReader
  | reader, [] => ([], reader)
  | reader, c :: rest =>
      let (first, next) := reader.step c
      let (lines, last) := feed next rest
      (first ++ lines, last)

/-- The last line of a text.  It counts even without an end, unless it is
empty. -/
def finish (reader : LineReader) : List (List Char) :=
  if reader.returned || !reader.reversed.isEmpty then [reader.line] else []

/-- Reading a text in two pieces is reading it at once. -/
theorem feed_append (reader : LineReader) (first second : List Char) :
    reader.feed (first ++ second) =
      ((reader.feed first).1 ++ ((reader.feed first).2.feed second).1,
        ((reader.feed first).2.feed second).2) := by
  induction first generalizing reader with
  | nil => simp [feed]
  | cons c rest ih => simp [feed, ih]

end LineReader

end AffinityPool
