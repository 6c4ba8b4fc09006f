import Mathlib.Data.Rat.Cast.Order
import QuoteDesk.Number.Binary64
import QuoteDesk.Number.Integer

/-!
# Whole binary numbers

A binary number without a fraction is the whole number that is left when it is cut.
No binary number is so large that its whole part could not be written.
-/

namespace QuoteDesk.Number.Binary64

open Text

theorem scaledUp_lt {significand : Nat} {exponent : Int} (fits : Fits significand exponent) :
    scaledUp significand exponent < 10 ^ digitLimit := by
  obtain ⟨significandSmall, _, exponentSmall, _⟩ := fits
  have powerSmall : exponent.toNat ≤ 971 := by omega
  have positive : 0 < 2 ^ exponent.toNat := Nat.two_pow_pos _
  calc scaledUp significand exponent
      < 2 ^ 53 * 2 ^ exponent.toNat := Nat.mul_lt_mul_of_pos_right significandSmall positive
    _ = 2 ^ (53 + exponent.toNat) := (Nat.pow_add 2 53 _).symm
    _ ≤ 10 ^ (53 + exponent.toNat) := Nat.pow_le_pow_left (by decide) _
    _ ≤ 10 ^ digitLimit := Nat.pow_le_pow_right (by decide) (by unfold digitLimit; omega)

theorem scaledDown_ne_zero (exponent : Int) : scaledDown exponent ≠ 0 :=
  (Nat.two_pow_pos _).ne'

theorem mkRat_of_mod_eq_zero {up down : Nat} (nonzero : down ≠ 0) (whole : up % down = 0) :
    mkRat up down = ((up / down : Nat) : Int) := by
  obtain ⟨count, rfl⟩ := Nat.dvd_of_mod_eq_zero whole
  have positive : 0 < down := Nat.pos_of_ne_zero nonzero
  rw [Nat.mul_div_cancel_left count positive, Rat.mkRat_eq_div]
  push_cast
  exact mul_div_cancel_left₀ _ (Nat.cast_ne_zero.mpr nonzero)

/-- A number without a fraction is its whole part. -/
theorem exists_int_of_isWhole {x : Binary64} (whole : x.isWhole = true) :
    ∃ n : Int, x.truncate? = some n ∧ x.toRat? = some (n : Rat) ∧ n.natAbs < 10 ^ digitLimit := by
  cases x with
  | infinite negative => cases whole
  | notANumber => cases whole
  | finite negative significand exponent fits =>
      let up := scaledUp significand exponent
      let down := scaledDown exponent
      have cut : mkRat up down = ((up / down : Nat) : Int) :=
        mkRat_of_mod_eq_zero (scaledDown_ne_zero exponent) (eq_of_beq whole)
      have small : up / down < 10 ^ digitLimit :=
        Nat.lt_of_le_of_lt (Nat.div_le_self up down) (scaledUp_lt fits)
      cases negative with
      | false => exact ⟨(up / down : Nat), rfl, congrArg some cut, small⟩
      | true =>
          refine ⟨-(up / down : Nat), rfl, ?_, ?_⟩
          · rw [Int.cast_neg, ← cut]
            rfl
          · rw [Int.natAbs_neg, Int.natAbs_natCast]
            exact small

end QuoteDesk.Number.Binary64
