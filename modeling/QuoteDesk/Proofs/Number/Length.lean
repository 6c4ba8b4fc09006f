import Mathlib.Algebra.Group.Nat.Defs
import QuoteDesk.Number.Integer

/-!
# How long numbers are

A word of decimal digits writes a number that has no more digits than the word.
So a number that was read can be written again: neither goes beyond the limit.
What was written is a word of digits and is read as the same number.
-/

namespace QuoteDesk.Number

open Text

theorem digit_le_nine {c : Char} (digit : isAsciiDigit c = true) :
    c.toNat - '0'.toNat ≤ 9 := by
  simp only [isAsciiDigit, Bool.and_eq_true, decide_eq_true_eq] at digit
  have upper : c.toNat ≤ '9'.toNat := digit.2
  have nine : '9'.toNat = '0'.toNat + 9 := rfl
  omega

private theorem foldl_digits_lt
    {digits : List Char} (allDigits : ∀ c ∈ digits, isAsciiDigit c = true)
    (value : Nat) :
    digits.foldl (fun value digit => 10 * value + (digit.toNat - '0'.toNat)) value <
      (value + 1) * 10 ^ digits.length := by
  induction digits generalizing value with
  | nil => simp
  | cons digit rest inductionHypothesis =>
      have restDigits : ∀ c ∈ rest, isAsciiDigit c = true :=
        fun c member => allDigits c (List.mem_cons_of_mem digit member)
      have small := digit_le_nine (allDigits digit List.mem_cons_self)
      rw [List.foldl_cons, List.length_cons, Nat.pow_succ']
      calc rest.foldl _ (10 * value + (digit.toNat - '0'.toNat))
          < (10 * value + (digit.toNat - '0'.toNat) + 1) * 10 ^ rest.length :=
            inductionHypothesis restDigits _
        _ ≤ ((value + 1) * 10) * 10 ^ rest.length :=
            Nat.mul_le_mul_right _ (by omega)
        _ = (value + 1) * (10 * 10 ^ rest.length) := Nat.mul_assoc _ _ _

theorem decimalValue_lt
    {digits : List Char} (allDigits : ∀ c ∈ digits, isAsciiDigit c = true) :
    decimalValue digits < 10 ^ digits.length := by
  simpa [decimalValue] using foldl_digits_lt allDigits 0

/-- The number of digits bounds a number by a power of ten. -/
theorem decimalLength_le_iff {n length : Nat} (positive : 0 < length) :
    decimalLength n ≤ length ↔ n < 10 ^ length :=
  Nat.length_toDigits_le_iff (by decide) positive

/-- What was read from a word that is not too long can be written. -/
theorem writeInteger_decimalValue
    {digits : List Char} (allDigits : ∀ c ∈ digits, isAsciiDigit c = true)
    (nonempty : digits ≠ []) (short : digits.length ≤ digitLimit) :
    writeInteger (decimalValue digits) = .ok (integerText (decimalValue digits)) := by
  have length : decimalLength (decimalValue digits) ≤ digits.length :=
    (decimalLength_le_iff (List.length_pos_iff.2 nonempty)).2 (decimalValue_lt allDigits)
  rw [writeInteger, Int.natAbs_natCast, if_neg (by omega)]

/-! ## Reading what was written -/

theorem toList_integerText (n : Nat) :
    (integerText n).toList = Nat.toDigits 10 n := by
  have notNegative : ¬ (n : Int) < 0 := by omega
  rw [integerText, if_neg notNegative, Int.natAbs_natCast, decimalText, String.toList_ofList]

theorem isAsciiDigit_of_mem_toDigits
    {n : Nat} {c : Char} (member : c ∈ Nat.toDigits 10 n) :
    isAsciiDigit c = true := by
  have digit := Nat.isDigit_of_mem_toDigits (by decide) (by decide) member
  simpa [Char.isDigit, isAsciiDigit, Char.le_def] using digit

/-- A number is read back from its digits. -/
theorem decimalValue_toDigits (n : Nat) :
    decimalValue (Nat.toDigits 10 n) = n := by
  have read := Nat.ofDigitChars_toDigits (b := 10) (n := n) (by decide) (by decide)
  rwa [Nat.ofDigitChars_eq_foldl] at read

end QuoteDesk.Number
