/-
Module: AffinityPool.Deflate.Bits
Purpose: Compressed data as bits, and what can stop its reading.
Main exports:
  Fault, Stop, Bits, Bits.ofOctets, Bits.take, Bits.aligned
-/

namespace AffinityPool.Deflate

/-- What is wrong with compressed data. -/
inductive Fault where
  | header
  | method
  | window
  | headerFlags
  | headerSum
  /-- The data needs a dictionary that nobody has. -/
  | dictionary
  | blockKind
  | storedLength
  | symbolCount
  | codeOfLengths
  | repeatedLength
  | endWithoutCode
  | codeOfLiterals
  | codeOfDistances
  | literal
  | distance
  | farBack
  | dataSum
  | dataLength
deriving Repr, DecidableEq

/-- The words for a fault; a missing dictionary has none. -/
def Fault.words? : Fault → Option String
  | .header => some "incorrect header check"
  | .method => some "unknown compression method"
  | .window => some "invalid window size"
  | .headerFlags => some "unknown header flags set"
  | .headerSum => some "header crc mismatch"
  | .dictionary => none
  | .blockKind => some "invalid block type"
  | .storedLength => some "invalid stored block lengths"
  | .symbolCount => some "too many length or distance symbols"
  | .codeOfLengths => some "invalid code lengths set"
  | .repeatedLength => some "invalid bit length repeat"
  | .endWithoutCode => some "invalid code -- missing end-of-block"
  | .codeOfLiterals => some "invalid literal/lengths set"
  | .codeOfDistances => some "invalid distances set"
  | .literal => some "invalid literal/length code"
  | .distance => some "invalid distance code"
  | .farBack => some "invalid distance too far back"
  | .dataSum => some "incorrect data check"
  | .dataLength => some "incorrect length check"

/-- The text of a fault. -/
def Fault.message (fault : Fault) : String :=
  match fault.words? with
  | some words => "Error -3 while decompressing data: " ++ words
  | none => "Error 2 while decompressing data"

/-- Why reading stops before the end. -/
inductive Stop where
  /-- There is no more data. -/
  | starved
  | faulty (fault : Fault)
deriving Repr, DecidableEq

/-- Data bit by bit, the lowest bit of each octet first. -/
abbrev Bits := List Bool

namespace Bits

/-- The bits of octets. -/
def ofOctets (octets : List UInt8) : Bits :=
  octets.flatMap fun octet => (List.range 8).map fun place => octet.toNat.testBit place

/-- Read a number of bits as a number, the lowest bit first. -/
def take : (count : Nat) → Bits → Except Stop (Nat × Bits)
  | 0, bits => .ok (0, bits)
  | _ + 1, [] => .error .starved
  | count + 1, bit :: bits => do
      let (value, bits) ← take count bits
      .ok (bit.toNat + 2 * value, bits)

/-- The bits from the next full octet on. -/
def aligned (bits : Bits) : Bits := bits.drop (bits.length % 8)

end Bits

end AffinityPool.Deflate
