import QuoteDesk.Proofs.Number.Comparing
import QuoteDesk.Proofs.Number.Numerals

/-!
# Results that need no rounding

A number is representable when it has no more significant digits than a result keeps and
they stand at places within the bounds.  A product or a sum of finite decimals that is
representable is not refused and not rounded, whatever digits and powers of ten its
operands are written with.
-/

namespace QuoteDesk.Number.Decimal

open Text

/-- A number with no more significant digits than a result keeps: the last of them stands at
a place that is not too small, and the first at one that is not too great. -/
structure Representable (q : ℚ) : Prop where
  digits : ∃ significand power : ℤ,
    q = significand * 10 ^ power ∧ significand.natAbs < 10 ^ precision ∧ leastExponent ≤ power
  range : |q| < 10 ^ (greatestPower + 1)

/-! ## Signs -/

/-- A magnitude with its sign. -/
def signed (negative : Bool) (q : ℚ) : ℚ :=
  if negative then -q else q

theorem toRat?_finite (negative : Bool) (coefficient : ℕ) (exponent : ℤ) :
    (finite negative coefficient exponent).toRat? =
      some (signed negative (coefficient * 10 ^ exponent)) :=
  congrArg some (exists_magnitude rfl)

theorem exists_finite_of_toRat? {d : Decimal} {q : ℚ} (known : d.toRat? = some q) :
    ∃ negative coefficient exponent, d = finite negative coefficient exponent ∧
      q = signed negative (coefficient * 10 ^ exponent) := by
  cases d with
  | finite negative coefficient exponent =>
      exact ⟨negative, coefficient, exponent, rfl, exists_magnitude known⟩
  | infinite negative => cases known
  | nan negative signalling payload => cases known

theorem signed_mul (a b : Bool) (q r : ℚ) :
    signed a q * signed b r = signed (a != b) (q * r) := by
  cases a <;> cases b <;> simp [signed]

theorem abs_signed (negative : Bool) (q : ℚ) : |signed negative q| = |q| := by
  cases negative
  · rfl
  · exact abs_neg q

theorem signed_zero (negative : Bool) : signed negative 0 = 0 := by
  cases negative <;> simp [signed]

theorem abs_intCast_mul_zpow (n power : ℤ) :
    |(n : ℚ) * 10 ^ power| = n.natAbs * 10 ^ power := by
  have positive : (0 : ℚ) < 10 ^ power := by positivity
  rw [abs_mul, abs_of_pos positive, Nat.cast_natAbs, Int.cast_abs]

/-- A number is its magnitude with its sign. -/
theorem signed_natAbs (n power : ℤ) :
    signed (n < 0) (n.natAbs * 10 ^ power) = n * 10 ^ power := by
  have positive : (0 : ℚ) < 10 ^ power := by positivity
  rw [← abs_intCast_mul_zpow]
  by_cases below : n < 0
  · have negative : (n : ℚ) * 10 ^ power ≤ 0 :=
      mul_nonpos_of_nonpos_of_nonneg (by exact_mod_cast below.le) positive.le
    rw [decide_eq_true below, signed, if_pos rfl, abs_of_nonpos negative, neg_neg]
  · have least : 0 ≤ (n : ℚ) * 10 ^ power :=
      mul_nonneg (by exact_mod_cast Int.not_lt.mp below) positive.le
    rw [decide_eq_false below, signed, if_neg Bool.false_ne_true, abs_of_nonneg least]

theorem toRat?_ofInt (n : ℤ) : (ofInt n).toRat? = some (n : ℚ) := by
  rw [ofInt, toRat?_finite, signed_natAbs, zpow_zero, mul_one]

theorem Representable.of_abs_eq {q r : ℚ} (fits : Representable q) (same : |r| = |q|) :
    Representable r := by
  obtain ⟨significand, power, written, short, least⟩ := fits.digits
  refine ⟨?_, same ▸ fits.range⟩
  rcases abs_eq_abs.mp same with rfl | rfl
  · exact ⟨significand, power, written, short, least⟩
  · refine ⟨-significand, power, ?_, by rwa [Int.natAbs_neg], least⟩
    rw [written]
    push_cast
    ring

/-- A magnitude that is representable is written with a whole number of few digits. -/
theorem Representable.exists_natCast {q : ℚ} (fits : Representable q) (magnitude : 0 ≤ q) :
    ∃ (n : ℕ) (power : ℤ), q = n * 10 ^ power ∧ n < 10 ^ precision ∧ leastExponent ≤ power := by
  obtain ⟨significand, power, written, short, least⟩ := fits.digits
  refine ⟨significand.natAbs, power, ?_, short, least⟩
  rw [← abs_of_nonneg magnitude, written, abs_intCast_mul_zpow]

/-! ## Rounding -/

theorem pow_le_of_ne_zero {n : ℕ} (positive : n ≠ 0) : 10 ^ (decimalLength n - 1) ≤ n := by
  refine Nat.le_of_not_lt fun short => ?_
  by_cases one : decimalLength n - 1 = 0
  · rw [one] at short
    omega
  · have fewer := (decimalLength_le_iff (Nat.pos_of_ne_zero one)).mpr short
    omega

theorem zpow_le_magnitude {coefficient : ℕ} (positive : coefficient ≠ 0) (exponent : ℤ) :
    (10 : ℚ) ^ (exponent + decimalLength coefficient - 1) ≤ coefficient * 10 ^ exponent := by
  have some : 0 < decimalLength coefficient := Nat.length_toDigits_pos
  have least : (10 : ℚ) ^ (decimalLength coefficient - 1) ≤ coefficient := by
    exact_mod_cast pow_le_of_ne_zero positive
  have split : exponent + decimalLength coefficient - 1 =
      ((decimalLength coefficient - 1 : ℕ) : ℤ) + exponent := by omega
  rw [split, zpow_add₀ (by norm_num), zpow_natCast]
  gcongr

theorem magnitude_lt_zpow (coefficient : ℕ) (exponent : ℤ) :
    (coefficient : ℚ) * 10 ^ exponent < 10 ^ (exponent + decimalLength coefficient) := by
  have short : (coefficient : ℚ) < 10 ^ decimalLength coefficient := by
    exact_mod_cast lt_pow_decimalLength coefficient
  rw [add_comm, zpow_add₀ (by norm_num), zpow_natCast]
  gcongr

theorem natCast_mul_zpow_lt_iff {n : ℕ} {power : ℤ} :
    (n : ℚ) * 10 ^ power < 10 ^ (precision + power) ↔ n < 10 ^ precision := by
  rw [zpow_add₀ (by norm_num), zpow_natCast, mul_lt_mul_iff_left₀ (by positivity)]
  exact_mod_cast Iff.rfl

theorem lt_of_ten_zpow_lt {a b : ℤ} (below : (10 : ℚ) ^ a < 10 ^ b) : a < b :=
  (zpow_lt_zpow_iff_right₀ (by norm_num)).mp below

/-- Few digits at places that are not too small and not too great. -/
theorem representable_of_short
    {n : ℕ} {power : ℤ} (short : n < 10 ^ precision) (least : leastExponent ≤ power)
    (greatest : precision + power ≤ greatestPower + 1) : Representable (n * 10 ^ power) where
  digits := ⟨n, power, by rw [Int.cast_natCast], by rwa [Int.natAbs_natCast], least⟩
  range := by
    rw [abs_of_nonneg (by positivity)]
    exact (natCast_mul_zpow_lt_iff.mpr short).trans_le (zpow_le_zpow_right₀ (by norm_num) greatest)

section Rounding

variable {coefficient : ℕ} {exponent : ℤ}

/-- No digit of a representable number is cut off. -/
theorem roundingExponent_le {n : ℕ} {power : ℤ} (positive : coefficient ≠ 0)
    (same : (coefficient : ℚ) * 10 ^ exponent = n * 10 ^ power) (short : n < 10 ^ precision)
    (least : leastExponent ≤ power) :
    roundingExponent (decimalLength coefficient) exponent ≤ power := by
  have below :
      (10 : ℚ) ^ (exponent + decimalLength coefficient - 1) < 10 ^ (precision + power) := by
    calc (10 : ℚ) ^ (exponent + decimalLength coefficient - 1)
        ≤ coefficient * 10 ^ exponent := zpow_le_magnitude positive exponent
      _ = n * 10 ^ power := same
      _ < 10 ^ (precision + power) := natCast_mul_zpow_lt_iff.mpr short
  have places := lt_of_ten_zpow_lt below
  unfold roundingExponent
  omega

theorem withoutLast_mul {kept : ℕ} (positive : kept ≠ 0) (dropped : ℕ) :
    withoutLast dropped (kept * 10 ^ dropped) = kept := by
  have long : ¬ decimalLength (kept * 10 ^ dropped) < dropped := by
    intro short
    have less := lt_pow_decimalLength (kept * 10 ^ dropped)
    have steps : 10 ^ decimalLength (kept * 10 ^ dropped) ≤ 10 ^ dropped :=
      Nat.pow_le_pow_right (by decide) short.le
    have more : 10 ^ dropped ≤ kept * 10 ^ dropped :=
      Nat.le_mul_of_pos_left _ (Nat.pos_of_ne_zero positive)
    omega
  rw [withoutLast, if_neg long]
  exact roundHalfEven_self_mul (Nat.pow_pos (by decide))

/-- What rounding keeps of a representable magnitude is all of it. -/
theorem exists_kept {n : ℕ} {power : ℤ} (positive : coefficient ≠ 0)
    (same : (coefficient : ℚ) * 10 ^ exponent = n * 10 ^ power) (short : n < 10 ^ precision)
    (least : leastExponent ≤ power) :
    ∃ kept place,
      (if exponent < roundingExponent (decimalLength coefficient) exponent then
          (withoutLast (roundingExponent (decimalLength coefficient) exponent - exponent).toNat
            coefficient, roundingExponent (decimalLength coefficient) exponent)
        else (coefficient, exponent)) = (kept, place) ∧
      (kept : ℚ) * 10 ^ place = coefficient * 10 ^ exponent ∧ kept ≠ 0 ∧
        kept < 10 ^ precision := by
  have target := roundingExponent_le positive same short least
  have cut : exponent + decimalLength coefficient ≤
      precision + roundingExponent (decimalLength coefficient) exponent := by
    unfold roundingExponent
    omega
  generalize roundingExponent (decimalLength coefficient) exponent = place at target cut ⊢
  by_cases rounds : exponent < place
  · obtain ⟨dropped, droppedEq⟩ := Int.eq_ofNat_of_zero_le (sub_nonneg.mpr rounds.le)
    obtain ⟨spared, sparedEq⟩ := Int.eq_ofNat_of_zero_le (sub_nonneg.mpr target)
    have value : ((n * 10 ^ spared : ℕ) : ℚ) * 10 ^ place = coefficient * 10 ^ exponent :=
      (mul_ten_zpow (by omega)).trans same.symm
    have whole : coefficient = n * 10 ^ spared * 10 ^ dropped := by
      have exact : ((n * 10 ^ spared * 10 ^ dropped : ℕ) : ℚ) * 10 ^ exponent =
          coefficient * 10 ^ exponent :=
        (mul_ten_zpow (by omega)).trans value
      exact_mod_cast (mul_right_cancel₀ (zpow_ne_zero exponent (by norm_num)) exact).symm
    have nonzero : n * 10 ^ spared ≠ 0 := by
      intro nothing
      rw [nothing, Nat.zero_mul] at whole
      exact positive whole
    refine ⟨n * 10 ^ spared, place, ?_, value, nonzero, ?_⟩
    · rw [if_pos rounds, droppedEq, Int.toNat_natCast]
      nth_rewrite 1 [whole]
      rw [withoutLast_mul nonzero]
    · have below : ((n * 10 ^ spared : ℕ) : ℚ) * 10 ^ place < 10 ^ (precision + place) := by
        rw [value]
        exact (magnitude_lt_zpow coefficient exponent).trans_le
          (zpow_le_zpow_right₀ (by norm_num) cut)
      exact natCast_mul_zpow_lt_iff.mp below
  · refine ⟨coefficient, exponent, if_neg rounds, rfl, positive, ?_⟩
    have few : decimalLength coefficient ≤ precision := by omega
    exact (lt_pow_decimalLength coefficient).trans_le (Nat.pow_le_pow_right (by decide) few)

/-- A representable magnitude is rounded to itself. -/
theorem exists_rounded (fits : Representable ((coefficient : ℚ) * 10 ^ exponent))
    (negative : Bool) :
    ∃ d, rounded negative coefficient exponent = .ok d ∧
      d.toRat? = some (signed negative (coefficient * 10 ^ exponent)) := by
  unfold rounded
  by_cases nothing : coefficient = 0
  · refine ⟨_, if_pos nothing, ?_⟩
    rw [toRat?_finite, nothing, Nat.cast_zero, zero_mul, zero_mul]
  · obtain ⟨n, power, same, short, least⟩ := fits.exists_natCast (by positivity)
    obtain ⟨kept, place, chosen, value, nonzero, few⟩ := exists_kept nothing same short least
    have within : place + decimalLength kept - 1 < greatestPower + 1 := by
      refine lt_of_ten_zpow_lt ((zpow_le_magnitude nonzero place).trans_lt ?_)
      rw [value]
      exact (le_abs_self _).trans_lt fits.range
    have noCarry : ¬ kept = Nat.pow 10 precision := Nat.ne_of_lt few
    rw [if_neg nothing]
    dsimp only
    rw [chosen]
    dsimp only
    rw [if_neg noCarry, if_neg]
    · exact ⟨_, rfl, by rw [toRat?_finite, value]⟩
    · rw [Bool.and_eq_true, decide_eq_true_eq]
      rintro ⟨beyond, -⟩
      change greatestPower < place + decimalLength kept - 1 at beyond
      omega

end Rounding

/-! ## Products -/

/-- A product that is representable is exact. -/
theorem exists_mul {x y : Decimal} {a b : ℚ} (left : x.toRat? = some a) (right : y.toRat? = some b)
    (fits : Representable (a * b)) :
    ∃ d, x.mul y = .ok d ∧ d.toRat? = some (a * b) := by
  obtain ⟨s, m, e, rfl, rfl⟩ := exists_finite_of_toRat? left
  obtain ⟨t, n, f, rfl, rfl⟩ := exists_finite_of_toRat? right
  have product : (m : ℚ) * 10 ^ e * (n * 10 ^ f) = ((m * n : ℕ) : ℚ) * 10 ^ (e + f) := by
    rw [zpow_add₀ (by norm_num)]
    push_cast
    ring
  rw [signed_mul, product] at fits ⊢
  exact exists_rounded (fits.of_abs_eq (abs_signed _ _).symm) (s != t)

/-! ## Sums -/

section Sums

variable {m n : ℕ} {e f : ℤ}

theorem alignedTo_mul {target : ℤ} (below : target ≤ e) (negative : Bool) :
    (alignedTo target negative m e : ℚ) * 10 ^ target = signed negative (m * 10 ^ e) := by
  unfold alignedTo
  by_cases nothing : m = 0
  · rw [if_pos nothing, nothing, Int.cast_zero, Nat.cast_zero, zero_mul, zero_mul, signed_zero]
  · have shifted : ((m * Nat.pow 10 (e - target).toNat : ℕ) : ℚ) * 10 ^ target = m * 10 ^ e :=
      mul_ten_zpow (by omega)
    rw [if_neg nothing, ← shifted]
    cases negative with
    | false => rfl
    | true =>
        rw [if_pos rfl, Int.cast_neg, neg_mul]
        rfl

/-- A number with another digit far behind its first one is not representable. -/
theorem not_representable_of_tail {whole place : ℤ} {tail : ℚ} (nonzero : tail ≠ 0)
    (small : |tail| < 10 ^ place)
    (great : (10 : ℚ) ^ (precision + place) ≤ |whole * 10 ^ place + tail|) :
    ¬ Representable (whole * 10 ^ place + tail) := by
  intro fits
  obtain ⟨significand, power, written, short, -⟩ := fits.digits
  have ten : (0 : ℚ) < 10 ^ place := by positivity
  have further : place < power := by
    have below : (10 : ℚ) ^ (precision + place) < 10 ^ (precision + power) := by
      calc (10 : ℚ) ^ (precision + place) ≤ |whole * 10 ^ place + tail| := great
        _ = significand.natAbs * 10 ^ power := by rw [written, abs_intCast_mul_zpow]
        _ < 10 ^ (precision + power) := natCast_mul_zpow_lt_iff.mpr short
    have places := lt_of_ten_zpow_lt below
    omega
  obtain ⟨shift, shiftEq⟩ := Int.eq_ofNat_of_zero_le (sub_nonneg.mpr further.le)
  have multiple : tail = ((significand * 10 ^ shift - whole : ℤ) : ℚ) * 10 ^ place := by
    have split : power = (shift : ℤ) + place := by omega
    rw [eq_sub_of_add_eq' written, split, zpow_add₀ (by norm_num), zpow_natCast]
    push_cast
    ring
  rw [multiple, abs_mul, abs_of_pos ten, mul_lt_iff_lt_one_left ten] at small
  have zero : significand * 10 ^ shift - whole = 0 := by
    rw [← Int.abs_lt_one_iff]
    exact_mod_cast small
  rw [zero, Int.cast_zero, zero_mul] at multiple
  exact nonzero multiple

/-- A summand that is replaced for being small beside the other one was nothing: with a
digit of it the sum would have too many. -/
theorem behind_value {a b : Bool}
    (fits : Representable (signed a (m * 10 ^ e) + signed b (n * 10 ^ f))) :
    ((behind m e n f).1 : ℚ) * 10 ^ (behind m e n f).2 = n * 10 ^ f := by
  unfold behind
  dsimp only
  have near : e - 1 - (if precision < decimalLength m then (0 : ℤ)
      else precision - decimalLength m + 1) ≤ e ∧
      precision + (e - 1 - (if precision < decimalLength m then (0 : ℤ)
        else precision - decimalLength m + 1)) + 1 ≤ e + decimalLength m - 1 := by
    split <;> omega
  generalize e - 1 - (if precision < decimalLength m then (0 : ℤ)
      else precision - decimalLength m + 1) = place at near ⊢
  by_cases tiny : m ≠ 0 ∧ f + decimalLength n - 1 < place
  · rw [if_pos (by simpa using tiny)]
    by_cases nothing : n = 0
    · rw [if_pos nothing, nothing, Nat.cast_zero, zero_mul, zero_mul]
    · exfalso
      have small : (n : ℚ) * 10 ^ f < 10 ^ place := by
        refine (magnitude_lt_zpow n f).trans_le (zpow_le_zpow_right₀ (by norm_num) ?_)
        omega
      have small' : |signed b ((n : ℚ) * 10 ^ f)| < 10 ^ place := by
        rwa [abs_signed, abs_of_nonneg (by positivity)]
      rw [← alignedTo_mul near.1] at fits
      refine not_representable_of_tail ?_ small' ?_ fits
      · rw [← abs_pos, abs_signed, abs_pos]
        positivity
      · -- The first digit of the sum stands at most one place behind that of the greater summand.
        have first : (10 : ℚ) ^ (precision + place + 1) ≤ m * 10 ^ e :=
          (zpow_le_zpow_right₀ (by norm_num) near.2).trans (zpow_le_magnitude tiny.1 e)
        have positive : (0 : ℚ) < 10 ^ place := by positivity
        have lower : (10 : ℚ) ^ place ≤ 10 ^ (precision + place) :=
          zpow_le_zpow_right₀ (by norm_num) (by omega)
        have apart := abs_sub_abs_le_abs_sub (signed a ((m : ℚ) * 10 ^ e)) (-signed b (n * 10 ^ f))
        rw [sub_neg_eq_add, abs_neg, abs_signed, abs_of_nonneg (by positivity)] at apart
        rw [zpow_add_one₀ (by norm_num)] at first
        rw [alignedTo_mul near.1]
        linarith
  · rw [if_neg (by simpa using tiny)]

/-- A sum that can be represented is computed without rounding. -/
theorem exists_addAligned {a b : Bool}
    (fits : Representable (signed a (m * 10 ^ e) + signed b (n * 10 ^ f))) :
    ∃ d, rounded
        (if alignedTo (min e f) a m e + alignedTo (min e f) b n f = 0 then a && b
          else alignedTo (min e f) a m e + alignedTo (min e f) b n f < 0)
        (alignedTo (min e f) a m e + alignedTo (min e f) b n f).natAbs (min e f) = .ok d ∧
      d.toRat? = some (signed a (m * 10 ^ e) + signed b (n * 10 ^ f)) := by
  have value : ((alignedTo (min e f) a m e + alignedTo (min e f) b n f : ℤ) : ℚ) * 10 ^ min e f =
      signed a (m * 10 ^ e) + signed b (n * 10 ^ f) := by
    rw [Int.cast_add, add_mul, alignedTo_mul (min_le_left e f), alignedTo_mul (min_le_right e f)]
  rw [← value] at fits ⊢
  generalize alignedTo (min e f) a m e + alignedTo (min e f) b n f = total at fits ⊢
  obtain ⟨d, summed, exact⟩ := exists_rounded
    (fits.of_abs_eq (by rw [abs_intCast_mul_zpow, abs_of_nonneg (by positivity)]))
    (if total = 0 then a && b else total < 0)
  refine ⟨d, summed, exact.trans (congrArg some ?_)⟩
  by_cases nothing : total = 0
  · rw [nothing, Int.natAbs_zero, Nat.cast_zero, Int.cast_zero, zero_mul, signed_zero]
  · rw [if_neg nothing, signed_natAbs]

/-- The sum of two finite decimals that is representable is exact. -/
theorem exists_addFinite {a b : Bool}
    (fits : Representable (signed a (m * 10 ^ e) + signed b (n * 10 ^ f))) :
    ∃ d, addFinite a m e b n f = .ok d ∧
      d.toRat? = some (signed a (m * 10 ^ e) + signed b (n * 10 ^ f)) := by
  unfold addFinite
  rcases lt_trichotomy e f with below | rfl | above
  · have same := behind_value (add_comm (signed a _) _ ▸ fits)
    rw [if_pos below]
    rw [← same] at fits ⊢
    exact exists_addAligned fits
  · rw [if_neg (lt_irrefl e), if_neg (lt_irrefl e)]
    exact exists_addAligned fits
  · have same := behind_value fits
    rw [if_neg above.not_gt, if_pos above]
    rw [← same] at fits ⊢
    exact exists_addAligned fits

/-- A sum that is representable is exact. -/
theorem exists_add {x y : Decimal} {a b : ℚ} (left : x.toRat? = some a) (right : y.toRat? = some b)
    (fits : Representable (a + b)) :
    ∃ d, x.add y = .ok d ∧ d.toRat? = some (a + b) := by
  obtain ⟨s, m, e, rfl, rfl⟩ := exists_finite_of_toRat? left
  obtain ⟨t, n, f, rfl, rfl⟩ := exists_finite_of_toRat? right
  exact exists_addFinite fits

end Sums

end QuoteDesk.Number.Decimal
