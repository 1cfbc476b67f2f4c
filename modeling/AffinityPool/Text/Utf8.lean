/-
Module: AffinityPool.Text.Utf8
Purpose: UTF-8 octets as characters, all at once or piece by piece.
Main exports:
  Utf8.State, Utf8.step, Utf8.decode?, Utf8.feed, Utf8.flush
-/

namespace AffinityPool.Text.Utf8

/-!
One machine reads octets and stands either between characters or inside one.
Strict decoding refuses the whole sequence at the first octet the machine
refuses.  Lossy decoding puts one replacement character for every longest piece
that starts a character but cannot be continued, and reads the refused octet
anew; because the machine's state is a value, it works across pieces.
-/

/-- Where the machine stands. -/
inductive State where
  | between
  /-- Inside a character: the octets still owed, the bounds of the next one, and
  the value of the bits so far. -/
  | inside (owed : Nat) (low high : Nat) (value : Nat)
deriving Repr, DecidableEq, Inhabited

/-- What one octet does. -/
inductive Step where
  | completes (c : Char)
  | continues (state : State)
  | refused
deriving Repr, DecidableEq

/-- The first octet of a character. -/
def firstOctet (octet : Nat) : Step :=
  if octet < 0x80 then .completes (Char.ofNat octet)
  else if 0xC2 ≤ octet ∧ octet ≤ 0xDF then .continues (.inside 1 0x80 0xBF (octet - 0xC0))
  else if octet = 0xE0 then .continues (.inside 2 0xA0 0xBF 0)
  else if octet = 0xED then .continues (.inside 2 0x80 0x9F 0xD)
  else if 0xE1 ≤ octet ∧ octet ≤ 0xEF then .continues (.inside 2 0x80 0xBF (octet - 0xE0))
  else if octet = 0xF0 then .continues (.inside 3 0x90 0xBF 0)
  else if 0xF1 ≤ octet ∧ octet ≤ 0xF3 then .continues (.inside 3 0x80 0xBF (octet - 0xF0))
  else if octet = 0xF4 then .continues (.inside 3 0x80 0x8F 4)
  else .refused

/-- One octet of the machine. -/
def step (state : State) (octet : UInt8) : Step :=
  match state with
  | .between => firstOctet octet.toNat
  | .inside owed low high value =>
      if low ≤ octet.toNat ∧ octet.toNat ≤ high then
        let value := value * 0x40 + (octet.toNat - 0x80)
        if owed ≤ 1 then .completes (Char.ofNat value)
        else .continues (.inside (owed - 1) 0x80 0xBF value)
      else .refused

/-- Strict decoding from a state: every octet must be accepted and the last one
must complete a character. -/
def decodeFrom? : State → List UInt8 → Option (List Char)
  | .between, [] => some []
  | .inside .., [] => none
  | state, octet :: rest =>
      match step state octet with
      | .completes c => (decodeFrom? .between rest).map (c :: ·)
      | .continues state => decodeFrom? state rest
      | .refused => none

/-- Strict decoding of a whole sequence. -/
def decode? (octets : List UInt8) : Option (List Char) := decodeFrom? .between octets

/-- The character that stands for octets that are no text. -/
def replacement : Char := '\uFFFD'

/-- Lossy decoding of a further piece. -/
def feed : State → List UInt8 → List Char × State
  | state, [] => ([], state)
  | state, octet :: rest =>
      match step state octet with
      | .completes c =>
          let (chars, last) := feed .between rest
          (c :: chars, last)
      | .continues state => feed state rest
      | .refused =>
          match state, step .between octet with
          | .between, _ =>
              let (chars, last) := feed .between rest
              (replacement :: chars, last)
          | .inside .., .completes c =>
              let (chars, last) := feed .between rest
              (replacement :: c :: chars, last)
          | .inside .., .continues state =>
              let (chars, last) := feed state rest
              (replacement :: chars, last)
          | .inside .., .refused =>
              let (chars, last) := feed .between rest
              (replacement :: replacement :: chars, last)

/-- Decoding in two pieces is decoding at once, wherever the cut is. -/
theorem feed_append (state : State) (first second : List UInt8) :
    feed state (first ++ second) =
      ((feed state first).1 ++ (feed (feed state first).2 second).1,
        (feed (feed state first).2 second).2) := by
  induction first generalizing state with
  | nil => simp [feed]
  | cons octet rest ih =>
      simp only [List.cons_append, feed]
      split
      · simp [ih]
      · exact ih _
      · split <;> simp [ih]

/-- What is left when no further piece comes. -/
def flush : State → List Char
  | .between => []
  | .inside .. => [replacement]

end AffinityPool.Text.Utf8
