/-
Module: AffinityPool.Deflate.Code
Purpose: Codes in which frequent symbols take fewer bits.
Main exports:
  Code, Code.ofLengths?, Code.read
-/
import AffinityPool.Deflate.Bits

namespace AffinityPool.Deflate

/-!
A code is given by the length of each symbol's word.  Words of one length are
consecutive numbers in the order of their symbols, and go on from twice the
number behind the last shorter word.
-/

/-- A code: how many words there are of each length, from one on, and the symbols
in the order of their words. -/
structure Code where
  counts : List Nat
  symbols : List Nat
deriving Repr, DecidableEq

namespace Code

/-- The longest word. -/
def maxLength : Nat := 15

/-- How many words there are of each length up to the longest one in use. -/
def countsOf (lengths : List Nat) : List Nat :=
  let longest := lengths.foldl max 0
  (List.range longest).map fun place => (lengths.filter (· = place + 1)).length

/-- The symbols with words of a length. -/
def symbolsOf (lengths : List Nat) (length : Nat) : List Nat :=
  (List.range lengths.length).filter fun symbol => lengths[symbol]? = some length

/-- How many words are left over behind words of several lengths, and nothing if
there are too many words. -/
def spare? (left : Nat) : List Nat → Option Nat
  | [] => some left
  | count :: counts => if 2 * left < count then none else spare? (2 * left - count) counts

/-- The code of lengths, of which zero means that a symbol has no word.  Words may
be left over only if there are none, or one of one bit and that is allowed. -/
def ofLengths? (mayBeSingle : Bool) (lengths : List Nat) : Option Code := do
  let counts := countsOf lengths
  let symbols := (List.range counts.length).flatMap fun place => symbolsOf lengths (place + 1)
  let spare ← spare? 1 counts
  if counts.isEmpty || spare = 0 || (mayBeSingle && counts.length = 1) then
    some ⟨counts, symbols⟩
  else none

/-- What one word gives. -/
inductive Word where
  | symbol (symbol : Nat)
  /-- A word of no symbol. -/
  | none
deriving Repr, DecidableEq

/-- Read on in a word: `value` is the word so far, `first` the first word of its
length, and `passed` the number of shorter words. -/
def readFrom (symbols : List Nat) (value first passed : Nat) :
    List Nat → Bits → Except Stop (Word × Bits)
  | [], bits => .ok (.none, bits)
  | _ :: _, [] => .error .starved
  | count :: counts, bit :: bits =>
      let value := 2 * value + bit.toNat
      if value < first + count then
        match symbols[passed + (value - first)]? with
        | some symbol => .ok (.symbol symbol, bits)
        | none => .ok (.none, bits)
      else readFrom symbols value (2 * (first + count)) (passed + count) counts bits

/-- Read a word.  A code without words takes one bit to show that. -/
def read (code : Code) (bits : Bits) : Except Stop (Word × Bits) :=
  match code.counts, bits with
  | [], [] => .error .starved
  | [], _ :: bits => .ok (.none, bits)
  | counts, bits => readFrom code.symbols 0 0 0 counts bits

end Code

end AffinityPool.Deflate
