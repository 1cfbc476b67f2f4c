/-
Module: AffinityPool.Text.FileName
Purpose: Texts that name files, and what has no octets in them.
Main exports:
  Letter.hasOctets, Unencodable, firstUnencodable?, Unencodable.message
-/
import AffinityPool.Text.Letter

namespace AffinityPool.Text

/-!
The name of a file is octets.  A text names it in UTF-8, and an octet that is no
UTF-8 is named by one of the halves that are set aside for that.  No other half
of a surrogate pair has octets.
-/

/-- Whether a letter can stand in the name of a file. -/
def Letter.hasOctets : Letter → Bool
  | .char _ => true
  | .half unit => 0xDC80 ≤ unit && unit < 0xDD00

/-- Halves side by side of which the first has no octets, with its position. -/
structure Unencodable where
  unit : Nat
  others : Nat
  position : Nat
deriving Repr, DecidableEq

/-- The first halves of a text that have no octets. -/
def firstUnencodable? (text : LooseText) : Option Unencodable :=
  let before := text.letters.takeWhile Letter.hasOctets
  match text.letters.dropWhile Letter.hasOctets with
  | .half unit :: rest =>
      some ⟨unit, (rest.takeWhile fun letter => letter.char?.isNone).length, before.length⟩
  | _ => none

/-- The text of what stands in the way. -/
def Unencodable.message (run : Unencodable) : String :=
  let start := run.position
  let stop := run.position + run.others
  let subject :=
    if run.others = 0 then
      let shown := String.ofList ('\\' :: 'u' :: hexPadded 4 run.unit)
      s!"character '{shown}' in position {start}"
    else s!"characters in position {start}-{stop}"
  s!"'utf-8' codec can't encode {subject}: surrogates not allowed"

/-- A text with nothing in the way has octets throughout. -/
theorem firstUnencodable?_eq_none {text : LooseText} :
    firstUnencodable? text = none ↔ ∀ letter ∈ text.letters, letter.hasOctets = true := by
  simp only [firstUnencodable?]
  generalize text.letters = letters
  induction letters with
  | nil => simp
  | cons letter rest ih =>
      by_cases plain : letter.hasOctets = true
      · simp only [List.dropWhile_cons, plain, if_true, List.mem_cons, forall_eq_or_imp, true_and]
        rw [← ih]
        split <;> simp_all
      · cases letter with
        | char c => exact absurd rfl plain
        | half unit => simp [plain]

end AffinityPool.Text
