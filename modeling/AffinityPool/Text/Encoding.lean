/-
Module: AffinityPool.Text.Encoding
Purpose: The encodings a JSON body may come in, told apart by its first octets.
Main exports:
  Encoding, Encoding.detect, Encoding.decode?, decodeBody?
-/
import AffinityPool.Text.Letter
import AffinityPool.Text.Utf8

namespace AffinityPool.Text

/-- The order of the octets of a code unit. -/
inductive Endian where
  | big
  | little
deriving Repr, DecidableEq

/-- An encoding of text. -/
inductive Encoding where
  | utf8
  | utf16 (endian : Endian)
  | utf32 (endian : Endian)
deriving Repr, DecidableEq

namespace Encoding

/-- Tell the encoding of a body, and how many octets of it are a byte order
mark.  Without a mark the position of the zero octets decides, since a JSON
text starts with two ASCII characters. -/
def detect : List UInt8 → Encoding × Nat
  | 0x00 :: 0x00 :: 0xFE :: 0xFF :: _ => (.utf32 .big, 4)
  | 0xFF :: 0xFE :: 0x00 :: 0x00 :: _ => (.utf32 .little, 4)
  | 0xFE :: 0xFF :: _ => (.utf16 .big, 2)
  | 0xFF :: 0xFE :: _ => (.utf16 .little, 2)
  | 0xEF :: 0xBB :: 0xBF :: _ => (.utf8, 3)
  | a :: b :: c :: d :: _ =>
      if a = 0 then (if b = 0 then .utf32 .big else .utf16 .big, 0)
      else if b = 0 then (if c = 0 ∧ d = 0 then .utf32 .little else .utf16 .little, 0)
      else (.utf8, 0)
  | [a, b] =>
      if a = 0 then (.utf16 .big, 0)
      else if b = 0 then (.utf16 .little, 0)
      else (.utf8, 0)
  | _ => (.utf8, 0)

/-- Put two octets together. -/
def pairValue (endian : Endian) (a b : UInt8) : Nat :=
  match endian with
  | .big => a.toNat * 0x100 + b.toNat
  | .little => b.toNat * 0x100 + a.toNat

/-- Group octets into units of two.  An odd octet at the end is refused. -/
def units16? (endian : Endian) : List UInt8 → Option (List Nat)
  | [] => some []
  | a :: b :: rest => (units16? endian rest).map (pairValue endian a b :: ·)
  | [_] => none

/-- Group octets into units of four. -/
def units32? (endian : Endian) : List UInt8 → Option (List Nat)
  | [] => some []
  | a :: b :: c :: d :: rest =>
      let unit := match endian with
        | .big => pairValue endian a b * 0x10000 + pairValue endian c d
        | .little => pairValue endian c d * 0x10000 + pairValue endian a b
      (units32? endian rest).map (unit :: ·)
  | _ => none

/-- The letter of a code point, if the code point is in range. -/
def letter? (value : Nat) : Option Letter :=
  if value < 0x110000 then some (Letter.ofUnit value) else none

/-- Read 16-bit units as letters.  Two units that make a pair are one
character. -/
def letters16 : List Nat → List Letter
  | [] => []
  | high :: low :: rest =>
      if Letter.arePair high low then .char (Letter.pairChar high low) :: letters16 rest
      else Letter.ofUnit high :: letters16 (low :: rest)
  | [unit] => [Letter.ofUnit unit]

/-- Whether the machine stands behind the first octet of what would be a half. -/
def maySpellHalf (state : Utf8.State) : Bool :=
  match Utf8.firstOctet 0xED with
  | .continues behind => state = behind
  | _ => false

/-- The half that is spelled by three octets, the first of which is read. -/
def spelledHalf? (second third : UInt8) : Option Letter :=
  if 0xA0 ≤ second ∧ second ≤ 0xBF ∧ 0x80 ≤ third ∧ third ≤ 0xBF then
    some (.half (0xD000 + (second.toNat - 0x80) * 0x40 + (third.toNat - 0x80)))
  else none

/-- Read octets as letters: every octet must be accepted, except that a half may
be spelled like a character of its value. -/
def letters8? : Utf8.State → List UInt8 → Option (List Letter)
  | .between, [] => some []
  | .inside .., [] => none
  | state, octet :: rest =>
      match Utf8.step state octet with
      | .completes c => (letters8? .between rest).map (.char c :: ·)
      | .continues state => letters8? state rest
      | .refused =>
          match rest with
          | [] => none
          | third :: rest =>
              if maySpellHalf state then do
                let half ← spelledHalf? octet third
                (letters8? .between rest).map (half :: ·)
              else none

/-- Decoding that refuses octets that spell nothing. -/
def decode? (encoding : Encoding) (octets : List UInt8) : Option (List Letter) :=
  match encoding with
  | .utf8 => letters8? .between octets
  | .utf16 endian => (units16? endian octets).map letters16
  | .utf32 endian => units32? endian octets >>= fun units => units.mapM letter?

end Encoding

/-- Decode a body by the encoding it shows, without its byte order mark. -/
def decodeBody? (octets : List UInt8) : Option (List Letter) :=
  let (encoding, mark) := Encoding.detect octets
  encoding.decode? (octets.drop mark)

end AffinityPool.Text
