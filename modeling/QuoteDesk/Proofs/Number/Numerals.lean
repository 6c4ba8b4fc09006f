import Mathlib.Data.List.DropRight
import QuoteDesk.Proofs.Number.Length
import QuoteDesk.Proofs.Number.Rounding

/-!
# Written numbers are read back

A number is written as a numeral: digits, a point with digits behind it, and a power of
ten.  The numeral has the value of the digits chosen for the number, and these read back
as the number.
-/

namespace QuoteDesk.Number

open Text

/-! ## Values of digits -/

variable {digits : List Char}

private theorem foldl_digits_eq (value : Nat) (digits : List Char) :
    digits.foldl (fun value digit => 10 * value + (digit.toNat - '0'.toNat)) value =
      value * 10 ^ digits.length + decimalValue digits := by
  unfold decimalValue
  induction digits generalizing value with
  | nil => simp
  | cons digit rest inductionHypothesis =>
      rw [List.foldl_cons, List.foldl_cons, inductionHypothesis,
        inductionHypothesis (10 * 0 + _), List.length_cons, Nat.pow_succ]
      ring

/-- Every digit behind them makes digits worth ten times as much. -/
theorem decimalValue_append (digits more : List Char) :
    decimalValue (digits ++ more) = decimalValue digits * 10 ^ more.length + decimalValue more := by
  rw [decimalValue, List.foldl_append, foldl_digits_eq]
  rfl

theorem decimalValue_zeros (count : Nat) : decimalValue (List.replicate count '0') = 0 := by
  induction count with
  | zero => rfl
  | succ count inductionHypothesis =>
      rw [List.replicate_succ', decimalValue_append, inductionHypothesis]
      rfl

theorem takeWhile_digits_append
    {more : List Char} (allDigits : ∀ c ∈ digits, isAsciiDigit c = true)
    (ends : ∀ c ∈ more.head?, isAsciiDigit c = false) :
    (digits ++ more).takeWhile isAsciiDigit = digits ∧
      (digits ++ more).dropWhile isAsciiDigit = more := by
  rw [List.takeWhile_append_of_pos allDigits, List.dropWhile_append_of_pos allDigits]
  cases more with
  | nil => simp
  | cons c rest => simp [ends c rfl]

/-- Digits that are those of a positive number: the first one is not zero. -/
theorem toDigits_head_ne_zero {n : Nat} (positive : n ≠ 0) :
    (Nat.toDigits 10 n).head? ≠ some '0' := by
  intro first
  obtain ⟨rest, written⟩ : ∃ rest, Nat.toDigits 10 n = '0' :: rest := by
    cases known : Nat.toDigits 10 n with
    | nil => rw [known] at first; cases first
    | cons digit rest => rw [known] at first; cases first; exact ⟨rest, rfl⟩
  have value : decimalValue rest = n := by
    rw [← decimalValue_toDigits n, written]
    rfl
  have allDigits : ∀ c ∈ rest, isAsciiDigit c = true := fun c member =>
    isAsciiDigit_of_mem_toDigits (written ▸ List.mem_cons_of_mem _ member)
  have small : n < 10 ^ rest.length := value ▸ decimalValue_lt allDigits
  cases rest with
  | nil => exact positive value.symm
  | cons digit more =>
      have short : decimalLength n ≤ (digit :: more).length :=
        (decimalLength_le_iff (Nat.succ_pos _)).mpr small
      rw [decimalLength, written, List.length_cons] at short
      omega

theorem mul_ten_zpow {value shift : Nat} {exponent total : Int} (sum : shift + exponent = total) :
    ((value * 10 ^ shift : Nat) : ℚ) * 10 ^ exponent = value * 10 ^ total := by
  have ten : (10 : ℚ) ≠ 0 := by norm_num
  rw [Nat.cast_mul, Nat.cast_pow, mul_assoc, ← sum, zpow_add₀ ten, zpow_natCast, Nat.cast_ofNat]

/-! ## Numerals -/

namespace Binary64

theorem zero_isDigit : ∀ c ∈ ['0'], isAsciiDigit c = true :=
  List.forall_mem_singleton.mpr rfl

/-- The digits in front of the point and behind it, and the sign and the digits of a power
of ten.  There is something behind the whole digits. -/
structure Numeral where
  whole : List Char
  fraction : List Char
  power : Option (Bool × List Char)
  wholeDigits : ∀ c ∈ whole, isAsciiDigit c = true
  wholeStart : whole = ['0'] ∨ whole ≠ [] ∧ whole.head? ≠ some '0'
  fractionDigits : ∀ c ∈ fraction, isAsciiDigit c = true
  powerDigits : ∀ written ∈ power, written.2 ≠ [] ∧ ∀ c ∈ written.2, isAsciiDigit c = true
  marked : fraction ≠ [] ∨ power ≠ none

namespace Numeral

variable (numeral : Numeral)

def fractionChars : List Char :=
  if numeral.fraction = [] then [] else '.' :: numeral.fraction

def powerChars : List Char :=
  match numeral.power with
  | none => []
  | some (negative, digits) => 'e' :: (if negative then '-' else '+') :: digits

/-- The characters of a numeral. -/
def chars : List Char :=
  numeral.whole ++ numeral.fractionChars ++ numeral.powerChars

def coefficient : Nat :=
  decimalValue (numeral.whole ++ numeral.fraction)

def exponent : Int :=
  (match numeral.power with
    | none => 0
    | some (negative, digits) => signedValue negative digits) - numeral.fraction.length

theorem whole_ne_nil : numeral.whole ≠ [] := by
  rcases numeral.wholeStart with zero | ⟨some, -⟩
  · rw [zero]
    exact List.cons_ne_nil _ _
  · exact some

theorem readPower_powerChars
    {negative : Bool} {digits : List Char} (known : numeral.power = some (negative, digits)) :
    readPower ((if negative then '-' else '+') :: digits) = some (signedValue negative digits) := by
  obtain ⟨nonempty, allDigits⟩ := numeral.powerDigits _ (Option.mem_def.mpr known)
  have split : splitSign ((if negative then '-' else '+') :: digits) = (negative, digits) := by
    cases negative <;> rfl
  have accepted : (digits.isEmpty || !digits.all isAsciiDigit) = false := by
    simp [nonempty, List.all_eq_true.mpr allDigits]
  rw [readPower, split]
  dsimp only
  rw [accepted, if_neg Bool.false_ne_true]

theorem head?_powerChars : ∀ c ∈ numeral.powerChars.head?, isAsciiDigit c = false := by
  unfold powerChars
  split
  · simp
  · simp
    decide

theorem head?_tail :
    ∀ c ∈ (numeral.fractionChars ++ numeral.powerChars).head?, isAsciiDigit c = false := by
  unfold fractionChars
  split_ifs
  · exact numeral.head?_powerChars
  · simp
    decide

/-- The reader takes a numeral as its decimal. -/
theorem readNumeral_chars (negative : Bool) :
    readNumeral negative numeral.chars =
      some (ofDecimal negative numeral.coefficient numeral.exponent) := by
  obtain ⟨wholeTaken, wholeDropped⟩ :=
    takeWhile_digits_append numeral.wholeDigits numeral.head?_tail
  obtain ⟨fractionTaken, fractionDropped⟩ :=
    takeWhile_digits_append numeral.fractionDigits numeral.head?_powerChars
  have nonempty : numeral.whole.isEmpty = false := by simp [numeral.whole_ne_nil]
  unfold readNumeral chars
  rw [List.append_assoc]
  dsimp only
  rw [wholeTaken, wholeDropped, nonempty, Bool.false_and, if_neg Bool.false_ne_true]
  unfold fractionChars coefficient exponent
  by_cases nothing : numeral.fraction = []
  · rw [if_pos nothing, nothing, List.nil_append, powerChars]
    cases known : numeral.power with
    | none => rfl
    | some written =>
        change Option.map _ (readPower ((if written.1 then '-' else '+') :: written.2)) = _
        rw [numeral.readPower_powerChars known]
        rfl
  · rw [if_neg nothing, List.cons_append]
    simp only [fractionTaken, fractionDropped]
    unfold powerChars
    cases known : numeral.power with
    | none => rfl
    | some written =>
        change Option.map _ (readPower ((if written.1 then '-' else '+') :: written.2)) = _
        rw [numeral.readPower_powerChars known]
        rfl

theorem exists_head : ∃ c rest, numeral.chars = c :: rest ∧ isAsciiDigit c = true := by
  unfold chars
  cases known : numeral.whole with
  | nil => exact absurd known numeral.whole_ne_nil
  | cons c rest =>
      refine ⟨c, rest ++ numeral.fractionChars ++ numeral.powerChars, rfl, ?_⟩
      exact numeral.wholeDigits c (known ▸ List.mem_cons_self)

/-- A laid out numeral is read as the number that it states. -/
theorem readWord_chars (negative : Bool) :
    readWord ((if negative then ['-'] else []) ++ numeral.chars) =
      some (ofDecimal negative numeral.coefficient numeral.exponent) := by
  obtain ⟨c, rest, written, digit⟩ := numeral.exists_head
  have split : splitSign ((if negative then ['-'] else []) ++ numeral.chars) =
      (negative, numeral.chars) := by
    cases negative with
    | true => rfl
    | false =>
        have noMinus : c ≠ '-' := by rintro rfl; revert digit; decide
        have noPlus : c ≠ '+' := by rintro rfl; revert digit; decide
        rw [written]
        simp [splitSign, noMinus, noPlus]
  have small : c.toLower = c := by
    simp only [isAsciiDigit, Bool.and_eq_true, decide_eq_true_eq] at digit
    have noCapital : ¬ (c.val ≥ 'A'.val ∧ c.val ≤ 'Z'.val) := by
      rintro ⟨capital, -⟩
      exact absurd (UInt32.le_trans capital digit.2) (by decide)
    exact dif_neg noCapital
  have noName : ∀ name : String, name.toList.head?.any isAsciiDigit = false →
      String.ofList (numeral.chars.map Char.toLower) ≠ name := by
    rintro name other rfl
    rw [String.toList_ofList, written, List.map_cons, List.head?_cons, small, Option.any_some,
      digit] at other
    cases other
  unfold readWord
  rw [split]
  dsimp only
  rw [if_neg, if_neg (noName "nan" (by decide)), readNumeral_chars]
  rw [Bool.or_eq_true, decide_eq_true_eq, decide_eq_true_eq]
  exact not_or.mpr ⟨noName "inf" (by decide), noName "infinity" (by decide)⟩

end Numeral

/-! ## Laying digits out -/

/-- The digits that are written of a positive number: no zero stands at either end. -/
theorem exists_kept {n : Nat} (positive : n ≠ 0) :
    ∃ digit rest dropped, trimEnd (· == '0') (Nat.toDigits 10 n) = digit :: rest ∧
      digit ≠ '0' ∧ Nat.toDigits 10 n = digit :: rest ++ List.replicate dropped '0' := by
  let zeros := (Nat.toDigits 10 n).rtakeWhile (· == '0')
  have split : trimEnd (· == '0') (Nat.toDigits 10 n) ++ zeros = Nat.toDigits 10 n :=
    List.rdropWhile_append_rtakeWhile
  have allZeros : zeros = List.replicate zeros.length '0' :=
    List.eq_replicate_of_mem fun c member => by
      simpa using List.mem_rtakeWhile_imp (p := (· == '0')) member
  cases kept : trimEnd (· == '0') (Nat.toDigits 10 n) with
  | nil =>
      rw [kept, List.nil_append] at split
      have value := decimalValue_toDigits n
      rw [← split, allZeros, decimalValue_zeros] at value
      exact absurd value.symm positive
  | cons digit rest =>
      rw [kept] at split
      refine ⟨digit, rest, zeros.length, rfl, ?_, by rw [← allZeros, split]⟩
      rintro rfl
      apply toDigits_head_ne_zero positive
      rw [← split]
      rfl

theorem layOut_zero (exponent : Int) : (layOut ⟨0, exponent⟩).toList = ['0', '.', '0'] := by
  have written : Nat.toDigits 10 0 = ['0'] := by decide
  simp [layOut, written, trimEnd]

/-- A numeral with the value of digits whose point stands behind some of them. -/
structure Numeral.Shows (numeral : Numeral) (kept : List Char) (point : Int) (chars : List Char) :
    Prop where
  chars : chars = numeral.chars
  value : (numeral.coefficient : ℚ) * 10 ^ numeral.exponent =
    decimalValue kept * 10 ^ (point - kept.length)

section Shows

variable {digit : Char} {rest : List Char} {point : Int}

theorem exists_shows_small
    (allDigits : ∀ c ∈ digit :: rest, isAsciiDigit c = true) (small : point ≤ 0) :
    ∃ numeral : Numeral, numeral.Shows (digit :: rest) point
      (['0', '.'] ++ List.replicate (-point).toNat '0' ++ digit :: rest) := by
  let fraction := List.replicate (-point).toNat '0' ++ digit :: rest
  have nonempty : fraction ≠ [] := List.append_ne_nil_of_right_ne_nil _ (List.cons_ne_nil _ _)
  have fractionDigits : ∀ c ∈ fraction, isAsciiDigit c = true := by
    intro c member
    rcases List.mem_append.mp member with zero | kept
    · rw [List.eq_of_mem_replicate zero]
      rfl
    · exact allDigits c kept
  refine ⟨⟨['0'], fraction, none, zero_isDigit, .inl rfl, fractionDigits, nofun, .inl nonempty⟩,
    ?_, ?_⟩
  · simp [Numeral.chars, Numeral.fractionChars, Numeral.powerChars, fraction]
  · have value : decimalValue (['0'] ++ fraction) = decimalValue (digit :: rest) * 10 ^ 0 := by
      rw [decimalValue_append, decimalValue_append, decimalValue_zeros]
      simp [decimalValue]
    rw [Numeral.coefficient, value, Numeral.exponent]
    apply mul_ten_zpow
    simp only [fraction, List.length_append, List.length_replicate]
    omega

theorem exists_shows_whole
    (allDigits : ∀ c ∈ digit :: rest, isAsciiDigit c = true) (notZero : digit ≠ '0')
    (great : ((digit :: rest).length : Int) ≤ point) :
    ∃ numeral : Numeral, numeral.Shows (digit :: rest) point
      (digit :: rest ++ List.replicate (point.toNat - (digit :: rest).length) '0' ++ ['.', '0']) := by
  let whole := digit :: rest ++ List.replicate (point.toNat - (digit :: rest).length) '0'
  have wholeDigits : ∀ c ∈ whole, isAsciiDigit c = true := by
    intro c member
    rcases List.mem_append.mp member with kept | zero
    · exact allDigits c kept
    · rw [List.eq_of_mem_replicate zero]
      rfl
  have start : whole ≠ [] ∧ whole.head? ≠ some '0' := by simp [whole, notZero]
  refine ⟨⟨whole, ['0'], none, wholeDigits, .inr start, zero_isDigit, nofun, .inl (by decide)⟩, ?_, ?_⟩
  · simp [Numeral.chars, Numeral.fractionChars, Numeral.powerChars, whole]
  · have value : decimalValue (whole ++ ['0']) =
        decimalValue (digit :: rest) * 10 ^ (point.toNat - (digit :: rest).length + 1) := by
      rw [decimalValue_append, decimalValue_append, decimalValue_zeros, Nat.pow_succ]
      simp [decimalValue]
      ring
    rw [Numeral.coefficient, value, Numeral.exponent]
    apply mul_ten_zpow
    simp only [List.length_cons, List.length_nil] at great ⊢
    omega

theorem exists_shows_split
    (allDigits : ∀ c ∈ digit :: rest, isAsciiDigit c = true) (notZero : digit ≠ '0')
    (positive : 0 < point) (inside : point < ((digit :: rest).length : Int)) :
    ∃ numeral : Numeral, numeral.Shows (digit :: rest) point
      ((digit :: rest).take point.toNat ++ ['.'] ++ (digit :: rest).drop point.toNat) := by
  let whole := (digit :: rest).take point.toNat
  let fraction := (digit :: rest).drop point.toNat
  have nonempty : fraction ≠ [] := by
    rw [← List.length_pos_iff, List.length_drop]
    omega
  have start : whole ≠ [] ∧ whole.head? ≠ some '0' := by
    obtain ⟨count, known⟩ : ∃ count, point.toNat = count + 1 := ⟨point.toNat - 1, by omega⟩
    simp [whole, known, notZero]
  refine ⟨⟨whole, fraction, none, fun c member => allDigits c (List.mem_of_mem_take member),
    .inr start, fun c member => allDigits c (List.mem_of_mem_drop member), nofun,
    .inl nonempty⟩, ?_, ?_⟩
  · simp only [Numeral.chars, Numeral.fractionChars, Numeral.powerChars, if_neg nonempty]
    simp [whole, fraction]
  · have value : decimalValue (whole ++ fraction) = decimalValue (digit :: rest) * 10 ^ 0 := by
      rw [List.take_append_drop, Nat.pow_zero, Nat.mul_one]
    rw [Numeral.coefficient, value, Numeral.exponent]
    apply mul_ten_zpow
    dsimp only
    rw [List.length_drop]
    omega

theorem exists_shows_power
    (allDigits : ∀ c ∈ digit :: rest, isAsciiDigit c = true) (notZero : digit ≠ '0') :
    ∃ numeral : Numeral, numeral.Shows (digit :: rest) point
      ((digit :: rest).take 1 ++
        (if (digit :: rest).length = 1 then [] else '.' :: (digit :: rest).drop 1) ++
        ['e', if point - 1 < 0 then '-' else '+'] ++
        List.replicate (2 - (Nat.toDigits 10 (point - 1).natAbs).length) '0' ++
        Nat.toDigits 10 (point - 1).natAbs) := by
  let power := point - 1
  let powerDigits := List.replicate (2 - (Nat.toDigits 10 power.natAbs).length) '0' ++
    Nat.toDigits 10 power.natAbs
  have nonempty : powerDigits ≠ [] :=
    List.append_ne_nil_of_right_ne_nil _ Nat.toDigits_ne_nil
  have allPower : ∀ c ∈ powerDigits, isAsciiDigit c = true := by
    intro c member
    rcases List.mem_append.mp member with zero | kept
    · rw [List.eq_of_mem_replicate zero]
      rfl
    · exact isAsciiDigit_of_mem_toDigits kept
  obtain ⟨digitDigit, restDigits⟩ := List.forall_mem_cons.mp allDigits
  have powerFits : ∀ written ∈ some (decide (power < 0), powerDigits),
      written.2 ≠ [] ∧ ∀ c ∈ written.2, isAsciiDigit c = true := by
    rintro _ ⟨⟩
    exact ⟨nonempty, allPower⟩
  refine ⟨⟨[digit], rest, some (power < 0, powerDigits), List.forall_mem_singleton.mpr digitDigit,
    .inr (by simp [notZero]), restDigits, powerFits, .inr (by simp)⟩, ?_, ?_⟩
  · cases rest <;> simp [Numeral.chars, Numeral.fractionChars, Numeral.powerChars, powerDigits, power]
  · have powerValue : signedValue (power < 0) powerDigits = power := by
      have magnitude : decimalValue powerDigits = power.natAbs := by
        rw [decimalValue_append, decimalValue_zeros, decimalValue_toDigits, Nat.zero_mul,
          Nat.zero_add]
      unfold signedValue
      rw [magnitude]
      split_ifs with negative
      · rw [decide_eq_true_eq] at negative
        omega
      · rw [decide_eq_true_eq] at negative
        omega
    have value : decimalValue ([digit] ++ rest) = decimalValue (digit :: rest) * 10 ^ 0 := by
      rw [List.singleton_append, Nat.pow_zero, Nat.mul_one]
    rw [Numeral.coefficient, value, Numeral.exponent]
    apply mul_ten_zpow
    dsimp only
    rw [powerValue, List.length_cons]
    omega

end Shows

/-- What is laid out is a numeral with the value of the digits. -/
theorem exists_numeral (digits : Digits) :
    ∃ numeral : Numeral, (layOut digits).toList = numeral.chars ∧
      (numeral.coefficient : ℚ) * 10 ^ numeral.exponent =
        digits.coefficient * 10 ^ digits.exponent := by
  obtain ⟨coefficient, exponent⟩ := digits
  by_cases nothing : coefficient = 0
  · subst nothing
    refine ⟨⟨['0'], ['0'], none, zero_isDigit, .inl rfl, zero_isDigit, nofun, .inl (by decide)⟩, ?_, ?_⟩
    · exact layOut_zero exponent
    · have value : decimalValue ['0', '0'] = 0 := rfl
      simp [Numeral.coefficient, value]
  · obtain ⟨digit, rest, dropped, kept, notZero, written⟩ := exists_kept nothing
    have allDigits : ∀ c ∈ digit :: rest, isAsciiDigit c = true := fun c member =>
      isAsciiDigit_of_mem_toDigits (written ▸ List.mem_append_left _ member)
    have size : (Nat.toDigits 10 coefficient).length = rest.length + 1 + dropped := by
      rw [written, List.length_append, List.length_cons, List.length_replicate]
    have value : coefficient = decimalValue (digit :: rest) * 10 ^ dropped := by
      have whole := decimalValue_toDigits coefficient
      rw [written, decimalValue_append, decimalValue_zeros, List.length_replicate,
        Nat.add_zero] at whole
      exact whole.symm
    let point := exponent + (Nat.toDigits 10 coefficient).length
    have shown : ∃ numeral : Numeral,
        numeral.Shows (digit :: rest) point (layOut ⟨coefficient, exponent⟩).toList := by
      unfold layOut
      dsimp only
      rw [kept, if_neg nothing]
      dsimp only
      by_cases near : (-4 < point && point ≤ 16) = true
      · rw [if_pos near]
        by_cases small : point ≤ 0
        · rw [if_pos small, String.toList_ofList]
          exact exists_shows_small allDigits small
        · rw [if_neg small]
          by_cases whole : ((digit :: rest).length : Int) ≤ point
          · rw [if_pos whole, String.toList_ofList]
            exact exists_shows_whole allDigits notZero whole
          · rw [if_neg whole, String.toList_ofList]
            exact exists_shows_split allDigits notZero (Int.not_le.mp small) (Int.not_le.mp whole)
      · rw [if_neg near, String.toList_ofList]
        exact exists_shows_power allDigits notZero
    obtain ⟨numeral, chars, same⟩ := shown
    refine ⟨numeral, chars, same.trans ?_⟩
    dsimp only
    rw [value]
    refine (mul_ten_zpow ?_).symm
    rw [List.length_cons]
    omega

/-! ## Numbers -/

theorem eq_zero_of_fits {exponent : Int} (fits : Fits 0 exponent) : exponent = -1074 := by
  obtain ⟨-, -, -, full | least⟩ := fits
  · exact absurd full (by decide)
  · exact least

/-- The digits that a finite number is written with read back as the number. -/
theorem ofDecimal_chosen
    {significand : Nat} {exponent : Int} (negative : Bool) (fits : Fits significand exponent) :
    ofDecimal negative (if significand = 0 then ⟨0, 0⟩ else shortestDigits significand exponent :
        Digits).coefficient
        (if significand = 0 then ⟨0, 0⟩ else shortestDigits significand exponent : Digits).exponent =
      .finite negative significand exponent fits := by
  by_cases nothing : significand = 0
  · subst nothing
    cases eq_zero_of_fits fits
    rw [if_pos rfl]
    exact if_pos rfl
  · rw [if_neg nothing]
    exact ofDecimal_shortestDigits fits nothing

/-- A finite number is written as a numeral that is read as this number. -/
theorem exists_numeral_write
    {negative : Bool} {significand : Nat} {exponent : Int} (fits : Fits significand exponent) :
    ∃ numeral : Numeral,
      (write (.finite negative significand exponent fits)).toList =
        (if negative then ['-'] else []) ++ numeral.chars ∧
      ofDecimal negative numeral.coefficient numeral.exponent =
        .finite negative significand exponent fits := by
  obtain ⟨numeral, chars, value⟩ :=
    exists_numeral (if significand = 0 then ⟨0, 0⟩ else shortestDigits significand exponent)
  refine ⟨numeral, ?_, ?_⟩
  · rw [write, String.toList_append, chars]
    cases negative <;> rfl
  · rw [ofDecimal_congr value]
    exact ofDecimal_chosen negative fits

end Binary64

end QuoteDesk.Number
