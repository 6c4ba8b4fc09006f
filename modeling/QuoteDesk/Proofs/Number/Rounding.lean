import QuoteDesk.Number.Binary64.Text
import QuoteDesk.Proofs.Number.Shares

/-!
# Rounding depends on the ratio

The binary number nearest to a quotient is the same for every way to write the quotient,
and so is the one nearest to a decimal.  A number that is written exactly is its own
nearest number, so the digits chosen for a number read back as this number.
-/

namespace QuoteDesk.Number

/-- Rounding depends on the ratio alone. -/
theorem roundHalfEven_mul_right {num den factor : Nat} (positive : 0 < factor) :
    roundHalfEven (num * factor) (den * factor) = roundHalfEven num den := by
  have floor : num * factor / (den * factor) = num / den :=
    Nat.mul_div_mul_right num den positive
  have excess : num * factor % (den * factor) = num % den * factor :=
    Nat.mul_mod_mul_right factor num den
  have doubled : 2 * (num % den * factor) = 2 * (num % den) * factor :=
    (Nat.mul_assoc _ _ _).symm
  have below : 2 * (num % den) * factor < den * factor ↔ 2 * (num % den) < den :=
    Nat.mul_lt_mul_right positive
  have above : den * factor < 2 * (num % den) * factor ↔ den < 2 * (num % den) :=
    Nat.mul_lt_mul_right positive
  simp only [roundHalfEven, floor, excess, doubled, below, above]

theorem roundHalfEven_self_mul {num den : Nat} (positive : 0 < den) :
    roundHalfEven (num * den) den = num := by
  simp [roundHalfEven, positive]

theorem roundHalfEven_of_small {num den : Nat} (small : 2 * num < den) :
    roundHalfEven num den = 0 := by
  have below : num < den := by omega
  simp [roundHalfEven, Nat.div_eq_of_lt below, Nat.mod_eq_of_lt below, small]

namespace Binary64

/-! ## Quotients -/

variable {negative : Bool} {num den : Nat}

theorem floorLog2_eq
    {power : Int} (numPositive : 0 < num) (denPositive : 0 < den)
    (lower : (2 : ℚ) ^ power * den ≤ num) (upper : (num : ℚ) < 2 ^ (power + 1) * den) :
    floorLog2 num den = power := by
  obtain ⟨reached, notPassed⟩ := floorLog2_spec numPositive denPositive
  have positive : (0 : ℚ) < den := Nat.cast_pos.mpr denPositive
  have atMost : (2 : ℚ) ^ floorLog2 num den < 2 ^ (power + 1) :=
    lt_of_mul_lt_mul_right (reached.trans_lt upper) positive.le
  have atLeast : (2 : ℚ) ^ power < 2 ^ (floorLog2 num den + 1) :=
    lt_of_mul_lt_mul_right (lower.trans_lt notPassed) positive.le
  rw [zpow_lt_zpow_iff_right₀ one_lt_two] at atMost atLeast
  omega

theorem floorLog2_mul_right
    {factor : Nat} (numPositive : 0 < num) (denPositive : 0 < den) (positive : 0 < factor) :
    floorLog2 (num * factor) (den * factor) = floorLog2 num den := by
  obtain ⟨reached, notPassed⟩ := floorLog2_spec numPositive denPositive
  have factorPositive : (0 : ℚ) < factor := Nat.cast_pos.mpr positive
  apply floorLog2_eq (Nat.mul_pos numPositive positive) (Nat.mul_pos denPositive positive)
  all_goals
    push_cast
    rw [← mul_assoc]
    gcongr

/-- The nearest binary number depends on the ratio alone. -/
theorem ofRatio_mul_right {factor : Nat} (denPositive : 0 < den) (positive : 0 < factor) :
    ofRatio negative (num * factor) (den * factor) = ofRatio negative num den := by
  unfold ofRatio
  by_cases nothing : num = 0
  · rw [if_pos nothing, if_pos (by rw [nothing, Nat.zero_mul])]
  · have numPositive : 0 < num := Nat.pos_of_ne_zero nothing
    rw [if_neg nothing, if_neg (Nat.mul_pos numPositive positive).ne',
      floorLog2_mul_right numPositive denPositive positive]
    dsimp only
    rw [Nat.mul_right_comm num, Nat.mul_right_comm den, roundHalfEven_mul_right positive]

/-- The nearest number depends on the ratio alone. -/
theorem ofRatio_congr
    {otherNum otherDen : Nat} (denPositive : 0 < den) (otherPositive : 0 < otherDen)
    (same : num * otherDen = otherNum * den) :
    ofRatio negative num den = ofRatio negative otherNum otherDen :=
  calc ofRatio negative num den
      = ofRatio negative (num * otherDen) (den * otherDen) :=
        (ofRatio_mul_right denPositive otherPositive).symm
    _ = ofRatio negative (otherNum * den) (otherDen * den) := by rw [same, Nat.mul_comm den]
    _ = ofRatio negative otherNum otherDen := ofRatio_mul_right otherPositive denPositive

theorem ofRatio_of_great
    (denPositive : 0 < den) (great : (2 : ℚ) ^ (1200 : Int) * den ≤ num) :
    ofRatio negative num den = .infinite negative := by
  have positive : (0 : ℚ) < den := Nat.cast_pos.mpr denPositive
  have numPositive : 0 < num := by
    have : (0 : ℚ) < num := lt_of_lt_of_le (by positivity) great
    exact_mod_cast this
  obtain ⟨-, notPassed⟩ := floorLog2_spec numPositive denPositive
  have high : (2 : ℚ) ^ (1200 : Int) < 2 ^ (floorLog2 num den + 1) :=
    lt_of_mul_lt_mul_right (great.trans_lt notPassed) positive.le
  rw [zpow_lt_zpow_iff_right₀ one_lt_two] at high
  unfold ofRatio
  rw [if_neg numPositive.ne']
  dsimp only
  rw [normal, dif_neg, dif_neg]
  · rintro ⟨-, -, upper, -⟩
    omega
  · rintro ⟨-, -, upper, -⟩
    omega

theorem ofRatio_of_tiny
    (denPositive : 0 < den) (tiny : (num : ℚ) < 2 ^ (-1199 : Int) * den) :
    ofRatio negative num den = zero negative := by
  unfold ofRatio
  by_cases nothing : num = 0
  · rw [if_pos nothing]
  · have numPositive : 0 < num := Nat.pos_of_ne_zero nothing
    have positive : (0 : ℚ) < den := Nat.cast_pos.mpr denPositive
    obtain ⟨reached, -⟩ := floorLog2_spec numPositive denPositive
    have low : (2 : ℚ) ^ floorLog2 num den < 2 ^ (-1199 : Int) :=
      lt_of_mul_lt_mul_right (reached.trans_lt tiny) positive.le
    rw [zpow_lt_zpow_iff_right₀ one_lt_two] at low
    obtain ⟨shift, shifted⟩ : ∃ shift : Nat, shift = 1074 := ⟨1074, rfl⟩
    have least : max (floorLog2 num den - 52) (-1074) = -(shift : Int) := by omega
    have halved : 2 * (num * Nat.pow 2 shift) < den := by
      have scaled : (2 : ℚ) * (num * 2 ^ (shift : Int)) < den := by
        calc (2 : ℚ) * (num * 2 ^ (shift : Int))
            < 2 * (2 ^ (-1199 : Int) * den * 2 ^ (shift : Int)) := by gcongr
          _ = 2 ^ (1 + -1199 + shift : Int) * den := by
              rw [zpow_add₀ two_ne_zero, zpow_add₀ two_ne_zero, zpow_one]
              ring
          _ ≤ 1 * den := by
              gcongr
              exact zpow_le_one_of_nonpos₀ one_le_two (by omega)
          _ = den := one_mul _
      rw [Nat.pow_eq]
      exact_mod_cast scaled
    have rounded : roundHalfEven (num * Nat.pow 2 (- -(shift : Int)).toNat)
        (den * Nat.pow 2 (-(shift : Int)).toNat) = 0 := by
      have up : (- -(shift : Int)).toNat = shift := by omega
      have down : den * Nat.pow 2 (-(shift : Int)).toNat = den := by
        rw [Int.toNat_of_nonpos (by omega)]
        exact Nat.mul_one den
      rw [up, down]
      exact roundHalfEven_of_small halved
    rw [if_neg nothing, least]
    dsimp only
    rw [rounded, shifted]
    exact dif_pos (by decide)

/-! ## Decimals -/

theorem log2_bounds {n : Nat} (positive : n ≠ 0) :
    (2 : ℚ) ^ (n.log2 : Int) ≤ n ∧ (n : ℚ) < 2 ^ (n.log2 + 1 : Int) := by
  constructor
  · exact_mod_cast Nat.log2_self_le positive
  · exact_mod_cast Nat.lt_log2_self

theorem two_zpow_le_ten_pow (power : Nat) : (2 : ℚ) ^ (3 * power : Int) ≤ 10 ^ power := by
  rw [zpow_mul, zpow_natCast]
  exact pow_le_pow_left₀ (by norm_num) (by norm_num) power

/-- The shortcuts for exponents that are far out change nothing. -/
theorem ofDecimal_eq_ofRatio {coefficient : Nat} (positive : coefficient ≠ 0) (exponent : Int) :
    ofDecimal negative coefficient exponent =
      ofRatio negative (coefficient * Nat.pow 10 exponent.toNat)
        (Nat.pow 10 (-exponent).toNat) := by
  obtain ⟨lower, upper⟩ := log2_bounds positive
  unfold ofDecimal
  rw [if_neg positive]
  dsimp only
  split_ifs with far near
  · simp only [Bool.and_eq_true, decide_eq_true_eq] at far
    have notDown : (-exponent).toNat = 0 := by omega
    have reached : (3 * exponent.toNat : Int) = 3 * exponent := by omega
    have great : (2 : ℚ) ^ (1200 : Int) ≤ coefficient * 10 ^ exponent.toNat := by
      calc (2 : ℚ) ^ (1200 : Int) ≤ 2 ^ (coefficient.log2 + 3 * exponent.toNat : Int) := by
            exact zpow_le_zpow_right₀ one_le_two (by omega)
        _ = 2 ^ (coefficient.log2 : Int) * 2 ^ (3 * exponent.toNat : Int) :=
            zpow_add₀ two_ne_zero _ _
        _ ≤ coefficient * 10 ^ exponent.toNat := by
            gcongr
            exact two_zpow_le_ten_pow exponent.toNat
    rw [notDown]
    refine (ofRatio_of_great Nat.one_pos ?_).symm
    rw [Nat.cast_one, mul_one, Nat.pow_eq]
    exact_mod_cast great
  · simp only [Bool.and_eq_true, decide_eq_true_eq] at near
    have notUp : exponent.toNat = 0 := by omega
    have unscaled : coefficient * Nat.pow 10 exponent.toNat = coefficient := by
      rw [notUp]
      exact Nat.mul_one coefficient
    have tiny : (coefficient : ℚ) < 2 ^ (-1199 : Int) * 10 ^ (-exponent).toNat := by
      calc (coefficient : ℚ) < 2 ^ (coefficient.log2 + 1 : Int) := upper
        _ ≤ 2 ^ (-1199 + 3 * (-exponent).toNat : Int) := by
            exact zpow_le_zpow_right₀ one_le_two (by omega)
        _ = 2 ^ (-1199 : Int) * 2 ^ (3 * (-exponent).toNat : Int) := zpow_add₀ two_ne_zero _ _
        _ ≤ 2 ^ (-1199 : Int) * 10 ^ (-exponent).toNat := by
            gcongr
            exact two_zpow_le_ten_pow (-exponent).toNat
    rw [unscaled]
    refine (ofRatio_of_tiny (Nat.pow_pos (by decide)) ?_).symm
    exact_mod_cast tiny
  · rfl

/-- The nearest number depends on the value of the decimal alone. -/
theorem ofDecimal_congr
    {coefficient otherCoefficient : Nat} {exponent otherExponent : Int}
    (same : (coefficient : ℚ) * 10 ^ exponent = otherCoefficient * 10 ^ otherExponent) :
    ofDecimal negative coefficient exponent =
      ofDecimal negative otherCoefficient otherExponent := by
  have ten : (10 : ℚ) ≠ 0 := by norm_num
  by_cases nothing : coefficient = 0
  · have otherNothing : otherCoefficient = 0 := by
      rw [nothing, Nat.cast_zero, zero_mul, eq_comm, mul_eq_zero] at same
      exact Nat.cast_eq_zero.mp (same.resolve_right (zpow_ne_zero _ ten))
    rw [ofDecimal, ofDecimal, if_pos nothing, if_pos otherNothing]
  · have otherPositive : otherCoefficient ≠ 0 := by
      rintro rfl
      rw [Nat.cast_zero, zero_mul, mul_eq_zero] at same
      exact nothing (Nat.cast_eq_zero.mp (same.resolve_right (zpow_ne_zero _ ten)))
    rw [ofDecimal_eq_ofRatio nothing, ofDecimal_eq_ofRatio otherPositive]
    have down : ∀ power : Nat, (0 : ℚ) < (Nat.pow 10 power : Nat) :=
      fun power => Nat.cast_pos.mpr (Nat.pow_pos (by decide))
    apply ofRatio_congr (Nat.pow_pos (by decide)) (Nat.pow_pos (by decide))
    have power : ∀ exponent : Int, (10 : ℚ) ^ exponent =
        (Nat.pow 10 exponent.toNat : Nat) / (Nat.pow 10 (-exponent).toNat : Nat) :=
      zpow_eq_div (by decide)
    rw [power, power, ← mul_div_assoc, ← mul_div_assoc,
      div_eq_div_iff (down _).ne' (down _).ne'] at same
    exact_mod_cast same

/-! ## Exact numbers -/

variable {significand : Nat} {exponent : Int}

/-- A number that is written exactly is its own nearest number. -/
theorem ofRatio_exact (fits : Fits significand exponent) (positive : significand ≠ 0) :
    ofRatio negative (scaledUp significand exponent) (scaledDown exponent) =
      .finite negative significand exponent fits := by
  obtain ⟨short, least, greatest, full⟩ := id fits
  have numPositive : 0 < scaledUp significand exponent :=
    Nat.mul_pos (Nat.pos_of_ne_zero positive) (Nat.two_pow_pos _)
  have denPositive : 0 < scaledDown exponent := Nat.two_pow_pos _
  have den : (0 : ℚ) < scaledDown exponent := Nat.cast_pos.mpr denPositive
  have value : (scaledUp significand exponent : ℚ) =
      significand * 2 ^ exponent * scaledDown exponent := by
    have power : (2 : ℚ) ^ exponent = (Nat.pow 2 exponent.toNat : Nat) / (scaledDown exponent : ℚ) :=
      zpow_eq_div two_pos exponent
    rw [power, scaledUp, mul_assoc, div_mul_cancel₀ _ den.ne', Nat.cast_mul]
  have chosen : max (floorLog2 (scaledUp significand exponent) (scaledDown exponent) - 52) (-1074) =
      exponent := by
    obtain ⟨reached, -⟩ := floorLog2_spec numPositive denPositive
    have below : floorLog2 (scaledUp significand exponent) (scaledDown exponent) < 53 + exponent := by
      rw [← zpow_lt_zpow_iff_right₀ (one_lt_two (α := ℚ)), zpow_add₀ two_ne_zero]
      refine lt_of_mul_lt_mul_right (reached.trans_lt ?_) den.le
      rw [value]
      gcongr
      exact_mod_cast short
    rcases full with full | subnormal
    · have exact : floorLog2 (scaledUp significand exponent) (scaledDown exponent) =
          52 + exponent := by
        apply floorLog2_eq numPositive denPositive
        · rw [value, zpow_add₀ two_ne_zero]
          gcongr
          exact_mod_cast full
        · rw [value, add_right_comm, zpow_add₀ two_ne_zero]
          gcongr
          exact_mod_cast short
      omega
    · omega
  have rounded : roundHalfEven (scaledUp significand exponent * Nat.pow 2 (-exponent).toNat)
      (scaledDown exponent * Nat.pow 2 exponent.toNat) = significand := by
    have regrouped : scaledUp significand exponent * Nat.pow 2 (-exponent).toNat =
        significand * (scaledDown exponent * Nat.pow 2 exponent.toNat) := by
      rw [scaledUp, scaledDown, Nat.mul_assoc, Nat.mul_comm (Nat.pow 2 exponent.toNat)]
    rw [regrouped]
    exact roundHalfEven_self_mul (Nat.mul_pos denPositive (Nat.two_pow_pos _))
  unfold ofRatio
  rw [if_neg numPositive.ne']
  dsimp only
  rw [chosen, rounded, normal, dif_pos]

/-- The exact digits of a binary number are nearest to itself. -/
theorem ofDecimal_exactDigits (fits : Fits significand exponent) (positive : significand ≠ 0) :
    ofDecimal negative (exactDigits significand exponent).coefficient
        (exactDigits significand exponent).exponent =
      .finite negative significand exponent fits := by
  have scaled : significand * Nat.pow 2 exponent.toNat ≠ 0 :=
    (Nat.mul_pos (Nat.pos_of_ne_zero positive) (Nat.two_pow_pos _)).ne'
  have coefficientPositive : (exactDigits significand exponent).coefficient ≠ 0 :=
    mul_ne_zero scaled (Nat.pow_pos (by decide)).ne'
  have up : (min exponent 0).toNat = 0 := by omega
  have down : (-min exponent 0).toNat = (-exponent).toNat := by omega
  rw [ofDecimal_eq_ofRatio coefficientPositive, ← ofRatio_exact fits positive]
  apply ofRatio_congr (Nat.pow_pos (by decide)) (Nat.two_pow_pos _)
  simp only [exactDigits, up, down, scaledUp, Nat.pow_eq, Nat.pow_zero, Nat.mul_one]
  rw [Nat.mul_assoc _ (5 ^ _), ← Nat.mul_pow]

/-! ## Signs -/

/-- A number with a minus sign put in front of it. -/
def mirrored : Binary64 → Binary64
  | .finite negative significand exponent fits => .finite (!negative) significand exponent fits
  | .infinite negative => .infinite (!negative)
  | .notANumber => .notANumber

theorem ofRatio_true (num den : Nat) : ofRatio true num den = (ofRatio false num den).mirrored := by
  have mirrors : ∀ significand exponent,
      normal true significand exponent = (normal false significand exponent).mirrored := by
    intro significand exponent
    unfold normal
    split_ifs <;> rfl
  unfold ofRatio
  split_ifs
  · rfl
  · exact mirrors _ _

theorem ofDecimal_true (coefficient : Nat) (exponent : Int) :
    ofDecimal true coefficient exponent = (ofDecimal false coefficient exponent).mirrored := by
  unfold ofDecimal
  dsimp only
  split_ifs
  · rfl
  · rfl
  · rfl
  · exact ofRatio_true _ _

/-! ## The digits chosen -/

/-- The digits chosen for a number read back as the number. -/
theorem ofDecimal_shortestDigits (fits : Fits significand exponent) (positive : significand ≠ 0) :
    ofDecimal negative (shortestDigits significand exponent).coefficient
        (shortestDigits significand exponent).exponent =
      .finite negative significand exponent fits := by
  have readsBack : ofDecimal false (shortestDigits significand exponent).coefficient
      (shortestDigits significand exponent).exponent =
        .finite false significand exponent fits := by
    have value : normal false significand exponent = .finite false significand exponent fits :=
      dif_pos fits
    unfold shortestDigits
    dsimp only
    rw [value]
    cases found : (List.range 17).findSome? _ with
    | none => exact ofDecimal_exactDigits fits positive
    | some digits =>
        obtain ⟨fewer, -, tried⟩ := List.exists_of_findSome?_eq_some found
        have accepted := List.find?_some tried
        exact eq_of_beq accepted
  cases negative with
  | false => exact readsBack
  | true => rw [ofDecimal_true, readsBack]; rfl

end Binary64

end QuoteDesk.Number
