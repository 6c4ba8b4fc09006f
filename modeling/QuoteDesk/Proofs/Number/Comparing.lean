import Mathlib.Order.Compare
import Mathlib.Tactic.FieldSimp
import QuoteDesk.Proofs.Number.Length
import QuoteDesk.Proofs.Number.Shares
import QuoteDesk.Value.Arithmetic

/-!
# Comparing numbers

Decimals are compared without working out powers of ten that settle the order alone.
The order that is found is the order of the exact values, and so is the order of any
two values that stand for rational numbers.
-/

namespace QuoteDesk

open Number Text

namespace Number

/-! ## Signs -/

theorem sign_num_of_pos {q : ℚ} (positive : 0 < q) : q.num.sign = 1 :=
  Int.sign_eq_one_of_pos (Rat.num_pos.mpr positive)

theorem sign_num_of_neg {q : ℚ} (negative : q < 0) : q.num.sign = -1 :=
  Int.sign_eq_neg_one_of_neg (Rat.num_neg.mpr negative)

theorem lt_of_sign_lt {q r : ℚ} (below : q.num.sign < r.num.sign) : q < r := by
  rcases lt_trichotomy q 0 with negative | rfl | positive
  · refine lt_of_not_ge fun under => ?_
    rw [sign_num_of_neg negative, sign_num_of_neg (lt_of_le_of_lt under negative)] at below
    exact lt_irrefl _ below
  · exact Rat.num_pos.mp (Int.sign_pos_iff.mp below)
  · rw [sign_num_of_pos positive] at below
    rcases Int.sign_trichotomy r.num with sign | sign | sign
    all_goals omega

theorem compares_of_sign_ne {q r : ℚ} (different : q.num.sign ≠ r.num.sign) :
    (compare q.num.sign r.num.sign).Compares q r := by
  rcases lt_or_gt_of_ne different with below | above
  · rw [compare_lt_iff_lt.mpr below]
    exact lt_of_sign_lt below
  · rw [compare_gt_iff_gt.mpr above]
    exact lt_of_sign_lt above

/-! ## Magnitudes -/

theorem lt_pow_decimalLength (n : Nat) : n < 10 ^ decimalLength n :=
  (decimalLength_le_iff Nat.length_toDigits_pos).mp le_rfl

theorem compares_of_natCast
    {a b : Nat} {q r : ℚ} (down : ℚ) (positive : 0 < down)
    (left : (a : ℚ) = q * down) (right : (b : ℚ) = r * down) : (compare a b).Compares q r := by
  rcases lt_trichotomy a b with below | rfl | above
  · rw [compare_lt_iff_lt.mpr below]
    refine (mul_lt_mul_iff_left₀ positive).mp ?_
    rw [← left, ← right]
    exact_mod_cast below
  · rw [compare_eq_iff_eq.mpr rfl]
    exact mul_right_cancel₀ positive.ne' (left.symm.trans right)
  · rw [compare_gt_iff_gt.mpr above]
    refine (mul_lt_mul_iff_left₀ positive).mp ?_
    rw [← left, ← right]
    exact_mod_cast above

/-- The order of two positive magnitudes, of which the first is a decimal and the second
a quotient. -/
theorem compares_magnitudes
    {coefficient num den : Nat} (exponent : Int) (coefficientPositive : 0 < coefficient)
    (numPositive : 0 < num) (denPositive : 0 < den) :
    (if (decimalLength num : Int) < exponent then Ordering.gt
      else if exponent + decimalLength coefficient + decimalLength den < 0 then .lt
      else
        compare (coefficient * Nat.pow 10 exponent.toNat * den)
          (num * Nat.pow 10 (-exponent).toNat)).Compares
      ((coefficient : ℚ) * 10 ^ exponent) (num / den : ℚ) := by
  have one : (1 : ℚ) ≤ coefficient := by exact_mod_cast coefficientPositive
  have numOne : (1 : ℚ) ≤ num := by exact_mod_cast numPositive
  have denOne : (1 : ℚ) ≤ den := by exact_mod_cast denPositive
  have ten : (10 : ℚ) ≠ 0 := by norm_num
  by_cases huge : (decimalLength num : Int) < exponent
  · rw [if_pos huge]
    have short : (num : ℚ) < 10 ^ (decimalLength num : Int) := by
      exact_mod_cast lt_pow_decimalLength num
    change (num / den : ℚ) < coefficient * 10 ^ exponent
    calc (num / den : ℚ) ≤ num := div_le_self (by positivity) denOne
      _ < 10 ^ (decimalLength num : Int) := short
      _ ≤ 10 ^ exponent := by
          gcongr
          norm_num
      _ ≤ coefficient * 10 ^ exponent := le_mul_of_one_le_left (by positivity) one
  · rw [if_neg huge]
    by_cases tiny : exponent + decimalLength coefficient + decimalLength den < 0
    · rw [if_pos tiny]
      have short : (coefficient : ℚ) < 10 ^ (decimalLength coefficient : Int) := by
        exact_mod_cast lt_pow_decimalLength coefficient
      have denShort : (den : ℚ) < 10 ^ (decimalLength den : Int) := by
        exact_mod_cast lt_pow_decimalLength den
      change coefficient * 10 ^ exponent < (num / den : ℚ)
      rw [lt_div_iff₀ (by positivity)]
      calc (coefficient : ℚ) * 10 ^ exponent * den
          ≤ 10 ^ (decimalLength coefficient : Int) * 10 ^ exponent *
              10 ^ (decimalLength den : Int) := by gcongr
        _ = 10 ^ (decimalLength coefficient + exponent + decimalLength den : Int) := by
            rw [zpow_add₀ ten, zpow_add₀ ten]
        _ < 10 ^ (0 : Int) := zpow_lt_zpow_right₀ (by norm_num) (by omega)
        _ = 1 := zpow_zero 10
        _ ≤ num := numOne
    · rw [if_neg tiny]
      have power : (10 : ℚ) ^ exponent =
          (Nat.pow 10 exponent.toNat : Nat) / (Nat.pow 10 (-exponent).toNat : Nat) :=
        zpow_eq_div (by decide) exponent
      have down : (0 : ℚ) < (Nat.pow 10 (-exponent).toNat : Nat) :=
        Nat.cast_pos.mpr (Nat.pow_pos (by decide))
      refine compares_of_natCast (den * (Nat.pow 10 (-exponent).toNat : Nat)) (by positivity) ?_ ?_
      · rw [power]
        push_cast
        field_simp
      · push_cast
        field_simp

theorem Decimal.exists_magnitude
    {negative : Bool} {coefficient : Nat} {exponent : Int} {q : ℚ}
    (known : (Decimal.finite negative coefficient exponent).toRat? = some q) :
    q = if negative then -((coefficient : ℚ) * 10 ^ exponent) else coefficient * 10 ^ exponent := by
  have power : (10 : ℚ) ^ exponent =
      (Nat.pow 10 exponent.toNat : Nat) / (Nat.pow 10 (-exponent).toNat : Nat) :=
    zpow_eq_div (by decide) exponent
  rw [power, ← mul_div_assoc, ← Option.some.inj known, Rat.mkRat_eq_div]
  push_cast
  rfl

theorem natAbs_num_div_den (r : ℚ) : ((r.num.natAbs : ℚ) / r.den) = |r| := by
  simp only [Rat.abs_def, Rat.divInt_eq_div, Int.cast_natCast]

theorem compares_neg {order : Ordering} {a b : ℚ} (compares : order.Compares a b) :
    order.swap.Compares (-a) (-b) := by
  cases order with
  | lt => exact neg_lt_neg compares
  | eq => exact congrArg Neg.neg compares
  | gt => exact neg_lt_neg compares

theorem Decimal.sign_num
    {negative : Bool} {coefficient : Nat} {exponent : Int} {q : ℚ}
    (known : (Decimal.finite negative coefficient exponent).toRat? = some q) :
    q.num.sign = if coefficient = 0 then 0 else if negative then -1 else 1 := by
  rw [exists_magnitude known]
  by_cases nothing : coefficient = 0
  · rw [if_pos nothing, nothing]
    cases negative <;> simp
  · have positive : (0 : ℚ) < coefficient * 10 ^ exponent :=
      mul_pos (Nat.cast_pos.mpr (Nat.pos_of_ne_zero nothing)) (by positivity)
    rw [if_neg nothing]
    cases negative with
    | false => exact sign_num_of_pos positive
    | true => exact sign_num_of_neg (neg_lt_zero.mpr positive)

/-- Decimals stand to rational numbers as their exact values do. -/
theorem Decimal.compareRat_compares
    {negative : Bool} {coefficient : Nat} {exponent : Int} {q : ℚ}
    (known : (Decimal.finite negative coefficient exponent).toRat? = some q) (r : ℚ) :
    (Decimal.compareRat negative coefficient exponent r).Compares q r := by
  have exact := exists_magnitude known
  have signKnown := sign_num known
  unfold Decimal.compareRat
  rw [← signKnown]
  dsimp only
  by_cases different : q.num.sign ≠ r.num.sign
  · rw [if_pos different]
    exact compares_of_sign_ne different
  · have sameSign : q.num.sign = r.num.sign := not_not.mp different
    rw [if_neg different]
    by_cases noSign : q.num.sign = 0
    · rw [if_pos noSign]
      rw [Int.sign_eq_zero_iff_zero, Rat.num_eq_zero] at noSign
      rw [noSign, eq_comm, Rat.num_zero, Int.sign_zero, Int.sign_eq_zero_iff_zero,
        Rat.num_eq_zero] at sameSign
      exact noSign.trans sameSign.symm
    · have something : coefficient ≠ 0 := by
        rintro rfl
        exact noSign signKnown
      have numPositive : 0 < r.num.natAbs := by
        refine Int.natAbs_pos.mpr fun none => noSign ?_
        rw [sameSign, none]
        rfl
      have magnitudes := compares_magnitudes exponent (Nat.pos_of_ne_zero something) numPositive
        r.den_pos
      rw [natAbs_num_div_den] at magnitudes
      rw [if_neg noSign]
      rw [if_neg something] at signKnown
      rw [signKnown] at sameSign ⊢
      cases negative with
      | false =>
          have positive : 0 < r := Rat.num_pos.mp (Int.sign_eq_one_iff_pos.mp sameSign.symm)
          rw [abs_of_pos positive] at magnitudes
          rw [exact]
          exact magnitudes
      | true =>
          have negative : r < 0 := Rat.num_neg.mp (Int.sign_eq_neg_one_iff_neg.mp sameSign.symm)
          have mirrored := compares_neg magnitudes
          rw [abs_of_neg negative, neg_neg] at mirrored
          rw [exact]
          exact mirrored

end Number

/-! ## Values -/

namespace Value

/-- The rational number that a value is. -/
def real? : Value → Option ℚ
  | .int n => some n
  | .float x => x.toRat?
  | .decimal d => d.toRat?
  | _ => none

/-- The order of two rational numbers is the one that is computed. -/
theorem compareRat_compares (a b : ℚ) : (compareRat a b).Compares a b := by
  unfold compareRat
  rcases lt_trichotomy a b with below | rfl | above
  · rw [if_pos below]
    exact below
  · rw [if_neg (lt_irrefl a), if_pos rfl]
    exact rfl
  · rw [if_neg above.not_gt, if_neg above.ne']
    exact above

theorem exists_order_of_real?
    {value : Value} {r : ℚ} (known : value.real? = some r) (sign : String) (bound : Int) :
    ∃ order, compare? sign value (.int bound) = .ok (some order) ∧ order.Compares r bound := by
  cases value with
  | int n =>
      cases known
      exact ⟨_, rfl, compareRat_compares _ _⟩
  | float x =>
      cases x with
      | infinite negative => cases known
      | notANumber => cases known
      | finite negative significand exponent fits =>
          have magnitude : (Value.float (.finite negative significand exponent fits)).magnitude? =
              some (.rational r) := by
            have exact : (Binary64.finite negative significand exponent fits).toRat? = some r := known
            rw [magnitude?, exact]
            · rfl
            all_goals nofun
          refine ⟨compareRat r bound, ?_, compareRat_compares _ _⟩
          rw [compare?, magnitude]
          rfl
  | decimal d =>
      cases d with
      | infinite negative => cases known
      | nan negative signalling payload => cases known
      | finite negative coefficient exponent =>
          exact ⟨_, rfl, Decimal.compareRat_compares known bound⟩
  | _ => cases known

theorem less_int_of_real?
    {value : Value} {r : ℚ} (known : value.real? = some r) (bound : Int) :
    value.less (.int bound) = .ok (decide (r < bound)) := by
  obtain ⟨order, compared, compares⟩ := exists_order_of_real? known "<" bound
  rw [less, compared]
  refine congrArg Except.ok (Bool.eq_iff_iff.mpr ?_)
  rw [decide_eq_true_iff, ← compares.eq_lt]
  simp

theorem greater_int_of_real?
    {value : Value} {r : ℚ} (known : value.real? = some r) (bound : Int) :
    value.greater (.int bound) = .ok (decide ((bound : ℚ) < r)) := by
  obtain ⟨order, compared, compares⟩ := exists_order_of_real? known ">" bound
  rw [greater, compared]
  refine congrArg Except.ok (Bool.eq_iff_iff.mpr ?_)
  rw [decide_eq_true_iff, ← compares.eq_gt]
  simp

/-! ### Least and greatest values -/

/-- Numbers that can be compared: no mark among them refuses it. -/
def Comparable (value : Value) : Prop :=
  ∃ magnitude, value.magnitude? = some magnitude ∧ magnitude ≠ .unordered true

theorem comparable_float (x : Binary64) : (Value.float x).Comparable := by
  cases x with
  | finite negative significand exponent fits => exact ⟨.rational _, rfl, nofun⟩
  | infinite negative => exact ⟨.infinite negative, rfl, nofun⟩
  | notANumber => exact ⟨.unordered false, rfl, nofun⟩

theorem comparable_int (n : Int) : (Value.int n).Comparable :=
  ⟨.rational n, rfl, nofun⟩

theorem exists_compare? {x y : Value} (one : x.Comparable) (other : y.Comparable)
    (sign : String) : ∃ order, compare? sign x y = .ok order := by
  obtain ⟨a, xKnown, aTold⟩ := one
  obtain ⟨b, yKnown, bTold⟩ := other
  unfold compare?
  rw [xKnown, yKnown]
  dsimp only
  unfold Magnitude.compare?
  split
  · exact absurd rfl aTold
  · exact absurd rfl bTold
  all_goals exact ⟨_, rfl⟩

/-- Of two values that can be compared there is a smaller one. -/
theorem exists_minimum {x y : Value} (one : x.Comparable) (other : y.Comparable) :
    ∃ least, x.minimum y = .ok least ∧ (least = x ∨ least = y) := by
  obtain ⟨order, compared⟩ := exists_compare? other one "<"
  rw [minimum, less, compared]
  by_cases below : (order == some .lt) = true
  · exact ⟨y, congrArg Except.ok (if_pos below), .inr rfl⟩
  · exact ⟨x, congrArg Except.ok (if_neg below), .inl rfl⟩

theorem exists_maximum {x y : Value} (one : x.Comparable) (other : y.Comparable) :
    ∃ greatest, x.maximum y = .ok greatest ∧ (greatest = x ∨ greatest = y) := by
  obtain ⟨order, compared⟩ := exists_compare? other one ">"
  rw [maximum, greater, compared]
  by_cases above : (order == some .gt) = true
  · exact ⟨y, congrArg Except.ok (if_pos above), .inr rfl⟩
  · exact ⟨x, congrArg Except.ok (if_neg above), .inl rfl⟩

end Value

end QuoteDesk
