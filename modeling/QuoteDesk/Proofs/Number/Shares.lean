import Mathlib.Algebra.Order.Field.Power
import Mathlib.Data.Rat.Cast.Order
import Mathlib.Tactic.Linarith
import Mathlib.Tactic.NormNum
import Mathlib.Tactic.Positivity
import Mathlib.Tactic.Ring
import QuoteDesk.Analysis.Basic

/-!
# Rounding a share

A share is a number from zero to one.  The binary number nearest to a quotient that is
a share, or to a decimal that is one, is finite and a share again: a quotient of at most
`2 ^ m / 2 ^ m` is never rounded above it.
-/

namespace QuoteDesk.Number

/-! ## Powers -/

theorem zpow_eq_div {base : Nat} (positive : 0 < base) (exponent : Int) :
    (base : ℚ) ^ exponent =
      (Nat.pow base exponent.toNat : Nat) / (Nat.pow base (-exponent).toNat : Nat) := by
  have nonzero : (base : ℚ) ≠ 0 := Nat.cast_ne_zero.mpr positive.ne'
  have split : exponent = (exponent.toNat : Int) - ((-exponent).toNat : Int) := by omega
  rw [Nat.pow_eq, Nat.pow_eq, Nat.cast_pow, Nat.cast_pow, ← zpow_natCast, ← zpow_natCast,
    ← zpow_sub₀ nonzero, ← split]

/-! ## Rounding -/

section Rounding

variable {num den bound : Nat}

theorem roundHalfEven_le (positive : 0 < den) (below : num ≤ bound * den) :
    roundHalfEven num den ≤ bound := by
  have near := (roundHalfEven_near num positive).1
  have half : 2 * roundHalfEven num den * den ≤ (2 * bound + 1) * den := by
    rw [Nat.mul_assoc, Nat.add_mul, Nat.one_mul, Nat.mul_assoc]
    omega
  have := Nat.le_of_mul_le_mul_right half positive
  omega

theorem le_roundHalfEven (positive : 0 < den) (above : bound * den ≤ num) :
    bound ≤ roundHalfEven num den := by
  have near := (roundHalfEven_near num positive).2
  have half : 2 * bound * den ≤ (2 * roundHalfEven num den + 1) * den := by
    rw [Nat.mul_assoc, Nat.add_mul, Nat.one_mul, Nat.mul_assoc]
    omega
  have := Nat.le_of_mul_le_mul_right half positive
  omega

end Rounding

namespace Binary64

/-! ## Quotients -/

/-- The estimate of the binary logarithm, once corrected, is exact. -/
theorem floorLog2_spec {num den : Nat} (numPositive : 0 < num) (denPositive : 0 < den) :
    (2 : ℚ) ^ floorLog2 num den * den ≤ num ∧
      (num : ℚ) < (2 : ℚ) ^ (floorLog2 num den + 1) * den := by
  have numLower : (2 : ℚ) ^ (num.log2 : Int) ≤ num := by
    exact_mod_cast Nat.log2_self_le numPositive.ne'
  have numUpper : (num : ℚ) < 2 ^ (num.log2 + 1 : Int) := by
    exact_mod_cast Nat.lt_log2_self
  have denLower : (2 : ℚ) ^ (den.log2 : Int) ≤ den := by
    exact_mod_cast Nat.log2_self_le denPositive.ne'
  have denUpper : (den : ℚ) < 2 ^ (den.log2 + 1 : Int) := by
    exact_mod_cast Nat.lt_log2_self
  let estimate : Int := num.log2 - den.log2
  have tested :
      den * Nat.pow 2 estimate.toNat ≤ num * Nat.pow 2 (-estimate).toNat ↔
        (2 : ℚ) ^ estimate * den ≤ num := by
    have power : (2 : ℚ) ^ estimate =
        (Nat.pow 2 estimate.toNat : Nat) / (Nat.pow 2 (-estimate).toNat : Nat) :=
      zpow_eq_div two_pos estimate
    have down : (0 : ℚ) < (Nat.pow 2 (-estimate).toNat : Nat) :=
      Nat.cast_pos.mpr (Nat.two_pow_pos _)
    rw [power, div_mul_eq_mul_div, div_le_iff₀ down, Nat.mul_comm]
    exact_mod_cast Iff.rfl
  have two : (2 : ℚ) ≠ 0 := two_ne_zero
  unfold floorLog2
  by_cases reached : den * Nat.pow 2 estimate.toNat ≤ num * Nat.pow 2 (-estimate).toNat
  · rw [if_pos reached]
    refine ⟨tested.mp reached, ?_⟩
    calc (num : ℚ) < 2 ^ (num.log2 + 1 : Int) := numUpper
      _ = 2 ^ (estimate + 1) * 2 ^ (den.log2 : Int) := by
          rw [← zpow_add₀ two]
          congr 1
          omega
      _ ≤ 2 ^ (estimate + 1) * den := by gcongr
  · rw [if_neg reached]
    constructor
    · calc (2 : ℚ) ^ (estimate - 1) * den
          ≤ 2 ^ (estimate - 1) * 2 ^ (den.log2 + 1 : Int) := by gcongr
        _ = 2 ^ (num.log2 : Int) := by
            rw [← zpow_add₀ two]
            congr 1
            omega
        _ ≤ num := numLower
    · rw [sub_add_cancel]
      exact not_le.mp fun stays => reached (tested.mpr stays)

/-- What is finite and lies between zero and one. -/
def IsShare (x : Binary64) : Prop :=
  ∃ r, x.toRat? = some r ∧ 0 ≤ r ∧ r ≤ 1

theorem isShare_zero (negative : Bool) : (zero negative).IsShare := by
  refine ⟨0, ?_, le_refl 0, zero_le_one⟩
  have nothing : scaledUp 0 (-1074) = 0 := Nat.zero_mul _
  cases negative <;> simp [zero, toRat?, nothing]

theorem isShare_finite
    {significand : Nat} {exponent : Int} (fits : Fits significand exponent)
    (below : significand ≤ Nat.pow 2 (-exponent).toNat) (small : exponent ≤ 0) :
    (Binary64.finite false significand exponent fits).IsShare := by
  have down : (0 : ℚ) < (Nat.pow 2 (-exponent).toNat : Nat) :=
    Nat.cast_pos.mpr (Nat.two_pow_pos _)
  have up : scaledUp significand exponent = significand := by
    rw [scaledUp, Int.toNat_of_nonpos small]
    exact Nat.mul_one significand
  refine ⟨_, rfl, ?_, ?_⟩
  all_goals
    rw [if_neg Bool.false_ne_true, Rat.mkRat_eq_div, up, scaledDown]
    push_cast
  · positivity
  · rw [div_le_one (by exact_mod_cast down)]
    exact_mod_cast below

theorem isShare_normal
    {significand : Nat} {exponent : Int} (lower : -1074 ≤ exponent) (upper : exponent ≤ -52)
    (short : significand ≤ Nat.pow 2 53)
    (full : Nat.pow 2 52 ≤ significand ∨ exponent = -1074)
    (below : significand ≤ Nat.pow 2 (-exponent).toNat) :
    (normal false significand exponent).IsShare := by
  unfold normal
  by_cases fits : Fits significand exponent
  · rw [dif_pos fits]
    exact isShare_finite fits below (by omega)
  · -- Only the significand of one bit too many is left.
    have overlong : significand = Nat.pow 2 53 := by
      refine Nat.le_antisymm short (Nat.le_of_not_lt fun less => fits ?_)
      exact ⟨less, lower, by omega, full⟩
    have halved : significand / 2 = Nat.pow 2 52 := by
      rw [overlong]
    have steep : 53 ≤ (-exponent).toNat := by
      rw [overlong, Nat.pow_eq, Nat.pow_eq] at below
      exact (Nat.pow_le_pow_iff_right one_lt_two).mp below
    have fitsHalved : Fits (significand / 2) (exponent + 1) := by
      rw [halved]
      exact ⟨by decide, by omega, by omega, .inl le_rfl⟩
    rw [dif_neg fits, dif_pos fitsHalved]
    refine isShare_finite fitsHalved ?_ (by omega)
    rw [halved, Nat.pow_eq, Nat.pow_eq]
    exact Nat.pow_le_pow_right two_pos (by omega)

/-- A quotient that is at most one is rounded to a share. -/
theorem isShare_ofRatio {num den : Nat} (positive : 0 < den) (below : num ≤ den) :
    (ofRatio false num den).IsShare := by
  unfold ofRatio
  by_cases nothing : num = 0
  · rw [if_pos nothing]
    exact isShare_zero false
  · rw [if_neg nothing]
    obtain ⟨reached, notPassed⟩ := floorLog2_spec (Nat.pos_of_ne_zero nothing) positive
    generalize floorLog2 num den = power at reached notPassed ⊢
    have denPositive : (0 : ℚ) < den := Nat.cast_pos.mpr positive
    have small : power ≤ 0 := by
      have atMostOne : (2 : ℚ) ^ power ≤ 2 ^ (0 : Int) := by
        refine le_of_mul_le_mul_right (reached.trans ?_) denPositive
        rw [zpow_zero, one_mul]
        exact_mod_cast below
      exact (zpow_le_zpow_iff_right₀ one_lt_two).mp atMostOne
    obtain ⟨shift, shifted⟩ : ∃ shift : Nat, max (power - 52) (-1074) = -(shift : Int) :=
      ⟨(-max (power - 52) (-1074)).toNat, by omega⟩
    have unscaled : den * Nat.pow 2 (-(shift : Int)).toNat = den := by
      rw [Int.toNat_of_nonpos (by omega)]
      exact Nat.mul_one den
    have scaled : (- -(shift : Int)).toNat = shift := by omega
    have two : (2 : ℚ) ≠ 0 := two_ne_zero
    dsimp only
    rw [shifted, unscaled, scaled]
    apply isShare_normal
    · omega
    · omega
    · apply roundHalfEven_le positive
      have short : (num : ℚ) * 2 ^ (shift : Int) ≤ 2 ^ (53 : Int) * den := by
        calc (num : ℚ) * 2 ^ (shift : Int)
            ≤ 2 ^ (power + 1) * den * 2 ^ (shift : Int) := by gcongr
          _ = 2 ^ (power + 1 + shift) * den := by
              rw [zpow_add₀ two (power + 1)]
              ring
          _ ≤ 2 ^ (53 : Int) * den := by
              gcongr
              · exact one_le_two
              · omega
      rw [Nat.pow_eq, Nat.pow_eq]
      exact_mod_cast short
    · by_cases least : max (power - 52) (-1074) = -1074
      · exact .inr (shifted.symm.trans least)
      · refine .inl (le_roundHalfEven positive ?_)
        have full : (2 : ℚ) ^ (52 : Int) * den ≤ num * 2 ^ (shift : Int) := by
          calc (2 : ℚ) ^ (52 : Int) * den
              = 2 ^ power * den * 2 ^ (shift : Int) := by
                rw [show (52 : Int) = power + shift by omega, zpow_add₀ two]
                ring
            _ ≤ num * 2 ^ (shift : Int) := by gcongr
        rw [Nat.pow_eq, Nat.pow_eq]
        exact_mod_cast full
    · rw [scaled]
      apply roundHalfEven_le positive
      rw [Nat.mul_comm]
      exact Nat.mul_le_mul_left _ below

/-! ## Decimals -/

/-- A decimal from zero to one is rounded to a share. -/
theorem isShare_ofDecimal
    {negative : Bool} {coefficient : Nat} {exponent : Int} {r : ℚ}
    (known : (Decimal.finite negative coefficient exponent).toRat? = some r)
    (least : 0 ≤ r) (greatest : r ≤ 1) :
    (ofDecimal negative coefficient exponent).IsShare := by
  unfold ofDecimal
  by_cases nothing : coefficient = 0
  · rw [if_pos nothing]
    exact isShare_zero negative
  · rw [if_neg nothing]
    have downPositive : 0 < Nat.pow 10 (-exponent).toNat := Nat.pow_pos (by decide)
    have upPositive : 0 < coefficient * Nat.pow 10 exponent.toNat :=
      Nat.mul_pos (Nat.pos_of_ne_zero nothing) (Nat.pow_pos (by decide))
    have magnitudePositive :
        0 < mkRat (coefficient * Nat.pow 10 exponent.toNat) (Nat.pow 10 (-exponent).toNat) := by
      rw [Rat.mkRat_eq_div]
      exact div_pos (by exact_mod_cast upPositive) (by exact_mod_cast downPositive)
    have notNegative : negative = false := by
      cases negative with
      | false => rfl
      | true =>
          have mirrored := Option.some.inj known
          rw [if_pos rfl] at mirrored
          linarith
    subst notNegative
    have below : coefficient * Nat.pow 10 exponent.toNat ≤ Nat.pow 10 (-exponent).toNat := by
      have same := Option.some.inj known
      rw [if_neg Bool.false_ne_true, Rat.mkRat_eq_div] at same
      rw [← same, div_le_one (by exact_mod_cast downPositive)] at greatest
      exact_mod_cast greatest
    have notUp : ¬ exponent > 0 := by
      intro up
      have one : Nat.pow 10 (-exponent).toNat = 1 := by
        rw [Int.toNat_of_nonpos (by omega)]
      have ten : 10 ^ 1 ≤ Nat.pow 10 exponent.toNat :=
        Nat.pow_le_pow_right (by decide) (by omega)
      have scaled : Nat.pow 10 exponent.toNat ≤ coefficient * Nat.pow 10 exponent.toNat :=
        Nat.le_mul_of_pos_left _ (Nat.pos_of_ne_zero nothing)
      omega
    dsimp only
    rw [decide_eq_false notUp, Bool.and_false, if_neg Bool.false_ne_true]
    split
    · exact isShare_zero false
    · exact isShare_ofRatio downPositive below

/-! ## Checking -/

theorem compare?_of_toRat?
    {x y : Binary64} {a b : ℚ} (left : x.toRat? = some a) (right : y.toRat? = some b) :
    compare? x y = some (if a < b then .lt else if a = b then .eq else .gt) := by
  cases x with
  | infinite negative => cases left
  | notANumber => cases left
  | finite negative significand exponent fits =>
      cases y with
      | infinite negative => cases right
      | notANumber => cases right
      | finite negative significand exponent fits =>
          rw [compare?, left, right]
          · rfl
          all_goals nofun

theorem any_ne_gt_iff {a b : ℚ} :
    (some (if a < b then Ordering.lt else if a = b then .eq else .gt)).any (· != .gt) = true ↔
      a ≤ b := by
  rcases lt_trichotomy a b with below | rfl | above
  · simp [below, below.le]
  · simp
  · simp [above, above.not_gt, above.ne']

theorem toRat?_ofInt_one : (ofInt 1).toRat? = some 1 := by
  decide +kernel

end Binary64

theorem isShare_iff {x : Binary64} : BomLine.isShare x = true ↔ x.IsShare := by
  have zeroKnown : (Binary64.zero false).toRat? = some 0 := by decide +kernel
  unfold BomLine.isShare
  rw [Bool.and_eq_true]
  cases known : x.toRat? with
  | none =>
      refine iff_of_false ?_ ?_
      · rintro ⟨least, greatest⟩
        cases x with
        | finite negative significand exponent fits => cases known
        | notANumber => cases least
        | infinite negative =>
            cases negative with
            | false => cases greatest
            | true => cases least
      · rintro ⟨r, finite, _⟩
        cases known.symm.trans finite
  | some r =>
      rw [Binary64.compare?_of_toRat? zeroKnown known,
        Binary64.compare?_of_toRat? known Binary64.toRat?_ofInt_one,
        Binary64.any_ne_gt_iff, Binary64.any_ne_gt_iff]
      constructor
      · rintro ⟨least, greatest⟩
        exact ⟨r, known, least, greatest⟩
      · rintro ⟨_, same, least, greatest⟩
        cases known.symm.trans same
        exact ⟨least, greatest⟩

end QuoteDesk.Number
