/-
Module: AffinityPool.Deflate.Block
Purpose: Blocks of compressed data, and the data that is made of them.
Main exports:
  Output, inflate
-/
import AffinityPool.Deflate.Code

namespace AffinityPool.Deflate

/-!
A block is stored as it is or coded.  Coded blocks consist of octets and of
copies of what came before; the codes are fixed ones or stand in front of the
block, themselves coded.  Whatever could be read before reading stopped counts.
-/

/-- The octets that have been read. -/
abbrev Output := Array UInt8

/-- The two codes of a block. -/
structure Codes where
  literals : Code
  distances : Code

/-- The shortest copies of the symbols for copies, each with the number of bits
that tell how much longer a copy is. -/
def copyLengths : List (Nat × Nat) :=
  [(3, 0), (4, 0), (5, 0), (6, 0), (7, 0), (8, 0), (9, 0), (10, 0), (11, 1), (13, 1), (15, 1),
   (17, 1), (19, 2), (23, 2), (27, 2), (31, 2), (35, 3), (43, 3), (51, 3), (59, 3), (67, 4),
   (83, 4), (99, 4), (115, 4), (131, 5), (163, 5), (195, 5), (227, 5), (258, 0)]

/-- The shortest distances of the symbols for distances, each with the number of
bits that tell how much farther back a copy starts. -/
def copyDistances : List (Nat × Nat) :=
  [(1, 0), (2, 0), (3, 0), (4, 0), (5, 1), (7, 1), (9, 2), (13, 2), (17, 3), (25, 3), (33, 4),
   (49, 4), (65, 5), (97, 5), (129, 6), (193, 6), (257, 7), (385, 7), (513, 8), (769, 8),
   (1025, 9), (1537, 9), (2049, 10), (3073, 10), (4097, 11), (6145, 11), (8193, 12), (12289, 12),
   (16385, 13), (24577, 13)]

/-- Read a number that a symbol and further bits tell. -/
def readRange (table : List (Nat × Nat)) (symbol : Nat) (fault : Fault) (bits : Bits) :
    Except Stop (Nat × Bits) :=
  match table[symbol]? with
  | none => .error (.faulty fault)
  | some (least, extra) => do
      let (more, bits) ← bits.take extra
      .ok (least + more, bits)

/-- Read how far back a copy starts. -/
def readDistance (code : Code) (bits : Bits) : Except Stop (Nat × Bits) := do
  let (word, bits) ← code.read bits
  match word with
  | .none => .error (.faulty .distance)
  | .symbol symbol => readRange copyDistances symbol .distance bits

/-- Copy octets from a distance back, one by one, so that a copy may reach into
itself. -/
def copied (output : Output) (distance : Nat) : (count : Nat) → Output
  | 0 => output
  | count + 1 =>
      copied (output.push (output.getD (output.size - distance) 0)) distance count

/-- What a symbol of a block is. -/
inductive Item where
  | octet (octet : UInt8)
  | ending
  | copy (count distance : Nat)

/-- Read the next item of a coded block. -/
def readItem (codes : Codes) (bits : Bits) : Except Stop (Item × Bits) := do
  let (word, bits) ← codes.literals.read bits
  match word with
  | .none => .error (.faulty .literal)
  | .symbol symbol =>
      if symbol < 256 then .ok (.octet (UInt8.ofNat symbol), bits)
      else if symbol = 256 then .ok (.ending, bits)
      else do
        let (count, bits) ← readRange copyLengths (symbol - 257) .literal bits
        let (distance, bits) ← readDistance codes.distances bits
        .ok (.copy count distance, bits)

/-- Read a coded block to its end.  Every item takes a bit, so the number of bits
is fuel enough. -/
def readCoded (codes : Codes) : (fuel : Nat) → Output → Bits → Output × Except Stop Bits
  | 0, output, _ => (output, .error .starved)
  | fuel + 1, output, bits =>
      match readItem codes bits with
      | .error stop => (output, .error stop)
      | .ok (.octet octet, bits) => readCoded codes fuel (output.push octet) bits
      | .ok (.ending, bits) => (output, .ok bits)
      | .ok (.copy count distance, bits) =>
          if output.size < distance then (output, .error (.faulty .farBack))
          else readCoded codes fuel (copied output distance count) bits

/-- Read octets that are stored as they are. -/
def readStored : (count : Nat) → Output → Bits → Output × Except Stop Bits
  | 0, output, bits => (output, .ok bits)
  | count + 1, output, bits =>
      match bits.take 8 with
      | .error stop => (output, .error stop)
      | .ok (octet, bits) => readStored count (output.push (UInt8.ofNat octet)) bits

/-- The codes of a block that brings none. -/
def fixedCodes : Codes :=
  let lengths :=
    List.replicate 144 8 ++ List.replicate 112 9 ++ List.replicate 24 7 ++ List.replicate 8 8
  { literals := (Code.ofLengths? false lengths).getD ⟨[], []⟩
    distances := (Code.ofLengths? false (List.replicate 32 5)).getD ⟨[], []⟩ }

/-- The order in which the lengths of the code of lengths are given. -/
def lengthOrder : List Nat := [16, 17, 18, 0, 8, 7, 9, 6, 10, 5, 11, 4, 12, 3, 13, 2, 14, 1, 15]

/-- Read several numbers of three bits. -/
def readTriples : (count : Nat) → Bits → Except Stop (List Nat × Bits)
  | 0, bits => .ok ([], bits)
  | count + 1, bits => do
      let (value, bits) ← bits.take 3
      let (others, bits) ← readTriples count bits
      .ok (value :: others, bits)

/-- Read the next lengths: one, or one several times. -/
def readSome (code : Code) (before : List Nat) (bits : Bits) :
    Except Stop (List Nat × Bits) := do
  let (word, bits) ← code.read bits
  match word with
  | .none => .ok ([0], bits)
  | .symbol 16 => do
      let (more, bits) ← bits.take 2
      match before.getLast? with
      | some last => .ok (List.replicate (3 + more) last, bits)
      | none => .error (.faulty .repeatedLength)
  | .symbol 17 => do
      let (more, bits) ← bits.take 3
      .ok (List.replicate (3 + more) 0, bits)
  | .symbol 18 => do
      let (more, bits) ← bits.take 7
      .ok (List.replicate (11 + more) 0, bits)
  | .symbol length => .ok ([length], bits)

/-- Read lengths, behind those before them, until there are as many as wanted.
Each step brings one at least, so the number wanted is fuel enough. -/
def readLengths (code : Code) (wanted : Nat) : (fuel : Nat) → List Nat → Bits →
    Except Stop (List Nat × Bits)
  | 0, before, bits => .ok (before, bits)
  | fuel + 1, before, bits =>
      if wanted ≤ before.length then .ok (before, bits)
      else do
        let (lengths, bits) ← readSome code before bits
        if wanted < before.length + lengths.length then .error (.faulty .repeatedLength)
        else readLengths code wanted fuel (before ++ lengths) bits

/-- A code, or the fault that there is none. -/
def codeOr (fault : Fault) (code : Option Code) : Except Stop Code :=
  match code with
  | some code => .ok code
  | none => .error (.faulty fault)

/-- Read the codes that stand in front of a block. -/
def readCodes (bits : Bits) : Except Stop (Codes × Bits) := do
  let (literals, bits) ← bits.take 5
  let (distances, bits) ← bits.take 5
  let (triples, bits) ← bits.take 4
  if 29 < literals || 29 < distances then .error (.faulty .symbolCount)
  let (given, bits) ← readTriples (triples + 4) bits
  let lengthOf (symbol : Nat) : Nat := ((lengthOrder.zip given).lookup symbol).getD 0
  let code ← codeOr .codeOfLengths (Code.ofLengths? false ((List.range 19).map lengthOf))
  let wanted := literals + 257 + (distances + 1)
  let (lengths, bits) ← readLengths code wanted wanted [] bits
  if lengths.getD 256 0 = 0 then .error (.faulty .endWithoutCode)
  let literals := literals + 257
  let literalCode ← codeOr .codeOfLiterals (Code.ofLengths? true (lengths.take literals))
  let distanceCode ← codeOr .codeOfDistances (Code.ofLengths? true (lengths.drop literals))
  .ok (⟨literalCode, distanceCode⟩, bits)

/-- Read a stored block. -/
def readStoredBlock (output : Output) (bits : Bits) : Output × Except Stop Bits :=
  match bits.aligned.take 16 with
  | .error stop => (output, .error stop)
  | .ok (length, bits) =>
      match bits.take 16 with
      | .error stop => (output, .error stop)
      | .ok (complement, bits) =>
          if length + complement = 0xFFFF then readStored length output bits
          else (output, .error (.faulty .storedLength))

/-- Read a block of a kind. -/
def readBlock (kind : Nat) (output : Output) (bits : Bits) : Output × Except Stop Bits :=
  match kind with
  | 0 => readStoredBlock output bits
  | 1 => readCoded fixedCodes (bits.length + 1) output bits
  | 2 =>
      match readCodes bits with
      | .error stop => (output, .error stop)
      | .ok (codes, bits) => readCoded codes (bits.length + 1) output bits
  | _ => (output, .error (.faulty .blockKind))

/-- Read blocks up to the last one.  Every block takes bits, so their number is
fuel enough. -/
def readBlocks : (fuel : Nat) → Output → Bits → Output × Except Stop Bits
  | 0, output, _ => (output, .error .starved)
  | fuel + 1, output, bits =>
      match bits.take 3 with
      | .error stop => (output, .error stop)
      | .ok (head, bits) =>
          match readBlock (head / 2) output bits with
          | (output, .error stop) => (output, .error stop)
          | (output, .ok bits) =>
              if head % 2 = 1 then (output, .ok bits) else readBlocks fuel output bits

/-- Decompress data: what could be read, and the bits behind the last block or why
reading stopped. -/
def inflate (octets : List UInt8) : Output × Except Stop Bits :=
  let bits := Bits.ofOctets octets
  readBlocks (bits.length + 1) #[] bits

end AffinityPool.Deflate
