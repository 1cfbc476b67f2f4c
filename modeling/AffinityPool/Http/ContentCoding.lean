/-
Module: AffinityPool.Http.ContentCoding
Purpose: Bodies that are compressed, as their headers say.
Main exports:
  Coding, Coding.ofHeaders, Decoder, Decoders, Decoders.ofHeaders, Decoders.feed
-/
import AffinityPool.Deflate.Frame
import AffinityPool.Http.Header
import AffinityPool.Text.Blank
import AffinityPool.Text.Split

namespace AffinityPool.Http

/-!
A body can be compressed several times over; the coding that was applied last is
undone first.  Pieces are decompressed as they come, each as far as it goes.
Codings that nobody knows are passed over.
-/

/-- A way to compress a body. -/
inductive Coding where
  | gzip
  | deflate
deriving Repr, DecidableEq

namespace Coding

/-- The coding of a name. -/
def ofName? (name : String) : Option Coding :=
  match name with
  | "gzip" => some .gzip
  | "deflate" => some .deflate
  | _ => none

/-- The codings that headers name, in the order of their application. -/
def ofHeaders (headers : Headers) : List Coding :=
  ((headers.values "content-encoding").flatMap fun value =>
    Text.pieces ',' value.toList).filterMap fun part =>
      ofName? (String.ofList (Text.trimmed Text.isSpacing part)).toLower

end Coding

/-- A body that is being decompressed. -/
structure Decoder where
  coding : Coding
  /-- The frame of the data, once the first piece has shown it. -/
  frame : Option Deflate.Frame
  /-- The compressed octets so far. -/
  taken : List UInt8
  /-- How many octets have been handed on. -/
  given : Nat
deriving Repr, DecidableEq

namespace Decoder

/-- A decoder that has seen nothing. -/
def fresh (coding : Coding) : Decoder := ⟨coding, none, [], 0⟩

/-- The frame that first octets show.  Deflated data that is not in its frame is
bare. -/
def frameOf (coding : Coding) (octets : List UInt8) : Deflate.Frame :=
  match coding with
  | .gzip => .gzip
  | .deflate => if (Deflate.Frame.zlib.open octets).2.isSome then .bare else .zlib

/-- Decompress a further piece. -/
def feed (decoder : Decoder) (octets : List UInt8) :
    Except Deflate.Fault (List UInt8 × Decoder) :=
  let frame := decoder.frame.getD (frameOf decoder.coding octets)
  let taken := decoder.taken ++ octets
  match frame.open taken with
  | (_, some fault) => .error fault
  | (output, none) =>
      .ok
        (output.toList.drop decoder.given,
          { decoder with frame := some frame, taken := taken, given := output.size })

end Decoder

/-- The decoders of a body, in the order in which a piece goes through them. -/
abbrev Decoders := List Decoder

namespace Decoders

/-- The decoders that headers ask for. -/
def ofHeaders (headers : Headers) : Decoders := (Coding.ofHeaders headers).reverse.map .fresh

/-- Decompress a further piece. -/
def feed : Decoders → List UInt8 → Except Deflate.Fault (List UInt8 × Decoders)
  | [], octets => .ok (octets, [])
  | decoder :: rest, octets => do
      let (octets, decoder) ← decoder.feed octets
      let (octets, rest) ← feed rest octets
      .ok (octets, decoder :: rest)

end Decoders

end AffinityPool.Http
