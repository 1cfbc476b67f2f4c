/-
Module: AffinityPool.Deflate.Frame
Purpose: The frames that compressed data comes in, with their check sums.
Main exports:
  Frame, Frame.open, adler32, crc32
-/
import AffinityPool.Deflate.Block

namespace AffinityPool.Deflate

/-- A frame around compressed data. -/
inductive Frame where
  | bare
  | zlib
  | gzip
deriving Repr, DecidableEq

/-- The sum that ends a `zlib` frame. -/
def adler32 (octets : List UInt8) : Nat :=
  let (a, b) := octets.foldl (fun (a, b) octet =>
    let a := (a + octet.toNat) % 65521
    (a, (b + a) % 65521)) (1, 0)
  b * 65536 + a

/-- One bit of the cyclic sum. -/
def crcBit (sum : UInt32) : UInt32 :=
  if sum &&& 1 = 1 then (sum >>> 1) ^^^ 0xEDB88320 else sum >>> 1

/-- One octet of the cyclic sum. -/
def crcOctet (sum : UInt32) (octet : UInt8) : UInt32 :=
  (List.range 8).foldl (fun sum _ => crcBit sum) (sum ^^^ octet.toUInt32)

/-- The cyclic sum that a `gzip` frame holds. -/
def crc32 (octets : List UInt8) : Nat :=
  (octets.foldl crcOctet 0xFFFFFFFF ^^^ 0xFFFFFFFF).toNat

/-- The number that octets write, the lowest one first. -/
def littleEndian : List UInt8 → Nat
  | [] => 0
  | octet :: rest => octet.toNat + 256 * littleEndian rest

/-- Take a number of octets. -/
def takeOctets (count : Nat) (octets : List UInt8) : Except Stop (List UInt8 × List UInt8) :=
  if octets.length < count then .error .starved else .ok (octets.splitAt count)

/-- Pass over a text that ends with a zero. -/
def passText (octets : List UInt8) : Except Stop (List UInt8) :=
  match octets.dropWhile (· ≠ 0) with
  | [] => .error .starved
  | _ :: rest => .ok rest

/-- What stands behind the head of a `zlib` frame. -/
def passZlibHead (octets : List UInt8) : Except Stop (List UInt8) := do
  let (head, rest) ← takeOctets 2 octets
  let method := (head.getD 0 0).toNat
  let flags := (head.getD 1 0).toNat
  if (method * 256 + flags) % 31 ≠ 0 then .error (.faulty .header)
  else if method % 16 ≠ 8 then .error (.faulty .method)
  else if 7 < method / 16 then .error (.faulty .window)
  else if flags.testBit 5 then do
    let _ ← takeOctets 4 rest
    .error (.faulty .dictionary)
  else .ok rest

/-- What stands behind the head of a `gzip` frame. -/
def passGzipHead (octets : List UInt8) : Except Stop (List UInt8) := do
  let (mark, rest) ← takeOctets 2 octets
  if mark ≠ [0x1F, 0x8B] then .error (.faulty .header)
  let (kind, rest) ← takeOctets 2 rest
  let flags := (kind.getD 1 0).toNat
  if kind.headD 0 ≠ 8 then .error (.faulty .method)
  if flags / 32 ≠ 0 then .error (.faulty .headerFlags)
  let (_, rest) ← takeOctets 6 rest
  let rest ←
    if flags.testBit 2 then do
      let (length, rest) ← takeOctets 2 rest
      let (_, rest) ← takeOctets (littleEndian length) rest
      .ok rest
    else .ok rest
  let rest ← if flags.testBit 3 then passText rest else .ok rest
  let rest ← if flags.testBit 4 then passText rest else .ok rest
  if flags.testBit 1 then do
    let head := octets.take (octets.length - rest.length)
    let (sum, rest) ← takeOctets 2 rest
    if littleEndian sum ≠ crc32 head % 65536 then .error (.faulty .headerSum) else .ok rest
  else .ok rest

/-- Check what stands behind the data of a frame. -/
def Frame.checkTail (frame : Frame) (output : Output) (octets : List UInt8) :
    Except Stop Unit := do
  match frame with
  | .bare => .ok ()
  | .zlib =>
      let (sum, _) ← takeOctets 4 octets
      if littleEndian sum.reverse ≠ adler32 output.toList then .error (.faulty .dataSum)
  | .gzip =>
      let (sum, rest) ← takeOctets 4 octets
      if littleEndian sum ≠ crc32 output.toList then .error (.faulty .dataSum)
      let (length, _) ← takeOctets 4 rest
      if littleEndian length ≠ output.size % 0x100000000 then .error (.faulty .dataLength)

/-- What stands behind the head of a frame. -/
def Frame.passHead (frame : Frame) (octets : List UInt8) : Except Stop (List UInt8) :=
  match frame with
  | .bare => .ok octets
  | .zlib => passZlibHead octets
  | .gzip => passGzipHead octets

/-- Decompress the data in a frame: what could be read, and the fault that was
found, if one was.  Data that breaks off is no fault, and what stands behind the
frame does not matter. -/
def Frame.open (frame : Frame) (octets : List UInt8) : Output × Option Fault :=
  let faultOf : Except Stop Unit → Option Fault
    | .error (.faulty fault) => some fault
    | _ => none
  match frame.passHead octets with
  | .error stop => (#[], faultOf (.error stop))
  | .ok body =>
      match inflate body with
      | (output, .error stop) => (output, faultOf (.error stop))
      | (output, .ok bits) =>
          let tail := body.drop (body.length - bits.length / 8)
          (output, faultOf (frame.checkTail output tail))

end AffinityPool.Deflate
