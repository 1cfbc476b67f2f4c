/-
Module: AffinityPool.Proofs.KeyPath.Numeral
Purpose: Which digits are read as a position, and how a position is written.
Main exports:
  Text.decimalNumber_lt, Text.decimalNumber_toDigits, KeyPath.position_eq_ok_iff, KeyPath.Numeral,
  KeyPath.Numeral.ofNat
-/
import AffinityPool.KeyPath.Basic
import Mathlib.Algebra.Group.Nat.Defs
import Mathlib.Data.List.Induction
import Mathlib.Data.List.TakeWhile

namespace AffinityPool

namespace Text

/-! ### Values of digits -/

variable {c : Char}

/-- A digit is worth less than ten. -/
theorem decimalValue_lt {value : Nat} (found : decimalValue? c = some value) : value < 10 := by
  unfold decimalValue? at found
  obtain ⟨start, run, rfl⟩ := Option.map_eq_some_iff.mp found
  have bounds := List.find?_some run
  simp only [Bool.and_eq_true, decide_eq_true_eq] at bounds
  omega

/-- The digit of a small number is worth that number. -/
theorem decimalValue_digitChar {value : Nat} (small : value < 10) :
    decimalValue? value.digitChar = some value := by
  have table : ∀ value < 10, decimalValue? (Nat.digitChar value) = some value := by decide
  exact table value small

/-- A number has at most as many decimal places as digits were read. -/
theorem decimalNumber_lt (digits : List Char) : decimalNumber digits < 10 ^ digits.length := by
  induction digits using List.reverseRecOn with
  | nil => simp
  | append_singleton digits c ih =>
      have last : (decimalValue? c).getD 0 < 10 := by
        cases found : decimalValue? c with
        | none => simp
        | some value => exact decimalValue_lt found
      rw [decimalNumber_append_singleton, List.length_append, List.length_singleton, Nat.pow_succ]
      omega

/-- The digits that write a number are read as that number. -/
theorem decimalNumber_toDigits (number : Nat) :
    decimalNumber (Nat.toDigits 10 number) = number := by
  induction number using Nat.base_induction 10 (by decide) with
  | single value small =>
      rw [Nat.toDigits_of_lt_base small]
      simp [decimalNumber, decimalValue_digitChar small]
  | digit front value small positive ih =>
      rw [← Nat.toDigits_append_toDigits (by decide) positive small, Nat.toDigits_of_lt_base small,
        decimalNumber_append_singleton, ih, decimalValue_digitChar small, Option.getD_some]
      omega

/-- The digits of a number are decimal. -/
theorem isDecimal_of_mem_toDigits {number : Nat} (member : c ∈ Nat.toDigits 10 number) :
    isDecimal c = true := by
  induction number using Nat.base_induction 10 (by decide) with
  | single value small =>
      rw [Nat.toDigits_of_lt_base small, List.mem_singleton] at member
      simp [member, isDecimal, decimalValue_digitChar small]
  | digit front value small positive ih =>
      rw [← Nat.toDigits_append_toDigits (by decide) positive small, List.mem_append,
        Nat.toDigits_of_lt_base small, List.mem_singleton] at member
      rcases member with inFront | last
      · exact ih inFront
      · simp [last, isDecimal, decimalValue_digitChar small]

end Text

namespace KeyPath

/-! ### Digits that are a position -/

/-- Digits are read as a position if all of them are decimal digits and there are not too
many. -/
theorem position_eq_ok_iff {digits : List Char} {value : Nat} :
    position digits = .ok value ↔
      (∀ c ∈ digits, Text.isDecimal c = true) ∧ digits.length ≤ Text.maxIntegerDigits ∧
        Text.decimalNumber digits = value := by
  unfold position
  by_cases decimal : ∀ c ∈ digits, Text.isDecimal c = true
  · have whole : digits.takeWhile Text.isDecimal = digits := List.takeWhile_eq_self_iff.mpr decimal
    rw [whole, and_iff_right decimal]
    by_cases long : Text.maxIntegerDigits < digits.length
    · simp [if_pos long, not_le.mpr long]
    · simp [if_neg long, not_lt.mp long]
  · have strict : (digits.takeWhile Text.isDecimal).length < digits.length := by
      have front := List.takeWhile_prefix (l := digits) Text.isDecimal
      refine lt_of_le_of_ne front.length_le fun same => decimal ?_
      exact List.takeWhile_eq_self_iff.mp (front.eq_of_length same)
    simp only [if_pos strict, decimal, false_and, iff_false]
    split <;> simp

/-- Digits that are read as a position. -/
structure Numeral where
  digits : List Char
  nonempty : digits ≠ []
  decimal : ∀ c ∈ digits, Text.isDecimal c = true
  short : digits.length ≤ Text.maxIntegerDigits

namespace Numeral

/-- The position that digits write. -/
def value (numeral : Numeral) : Nat := Text.decimalNumber numeral.digits

/-- The digits of a position are read as that position. -/
theorem position_digits (numeral : Numeral) : position numeral.digits = .ok numeral.value :=
  position_eq_ok_iff.mpr ⟨numeral.decimal, numeral.short, rfl⟩

/-- The usual digits of a position. -/
def ofNat (value : Nat) (short : (Nat.toDigits 10 value).length ≤ Text.maxIntegerDigits) :
    Numeral where
  digits := Nat.toDigits 10 value
  nonempty := Nat.toDigits_ne_nil
  decimal _ member := Text.isDecimal_of_mem_toDigits member
  short := short

@[simp] theorem digits_ofNat {value : Nat}
    (short : (Nat.toDigits 10 value).length ≤ Text.maxIntegerDigits) :
    (ofNat value short).digits = Nat.toDigits 10 value := rfl

@[simp] theorem value_ofNat {value : Nat}
    (short : (Nat.toDigits 10 value).length ≤ Text.maxIntegerDigits) :
    (ofNat value short).value = value :=
  Text.decimalNumber_toDigits value

/-- The usual digits of a position that was read are short enough to be read again. -/
theorem short_value (numeral : Numeral) :
    (Nat.toDigits 10 numeral.value).length ≤ Text.maxIntegerDigits := by
  refine le_trans ?_ numeral.short
  rw [Nat.length_toDigits_le_iff (by decide) (List.length_pos_iff.mpr numeral.nonempty)]
  exact Text.decimalNumber_lt numeral.digits

end Numeral

end KeyPath

end AffinityPool
