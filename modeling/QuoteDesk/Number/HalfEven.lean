/-!
# Rounding a quotient to the nearest whole number

Of two equally near whole numbers the even one is taken. The main statement says that the result
is never further away than half a unit.
-/

namespace QuoteDesk.Number

/-- The whole number nearest to `num / den`; of two equally near ones the even one. -/
def roundHalfEven (num den : Nat) : Nat :=
  let floor := num / den
  let excess := num % den
  if 2 * excess < den then floor
  else if den < 2 * excess then floor + 1
  else if floor % 2 = 0 then floor
  else floor + 1

/-- The rounded quotient lies within half a unit of the quotient. -/
theorem roundHalfEven_near (num : Nat) {den : Nat} (positive : 0 < den) :
    2 * (roundHalfEven num den * den) ≤ 2 * num + den ∧
      2 * num ≤ 2 * (roundHalfEven num den * den) + den := by
  have split := Nat.div_add_mod num den
  have small := Nat.mod_lt num positive
  have below : num / den * den = den * (num / den) := Nat.mul_comm _ _
  have above : (num / den + 1) * den = den * (num / den) + den := by
    rw [Nat.add_mul, Nat.mul_comm, Nat.one_mul]
  simp only [roundHalfEven]
  split
  · rw [below]; omega
  · split
    · rw [above]; omega
    · split
      · rw [below]; omega
      · rw [above]; omega

example : [5, 6, 7, 9, 10].map (roundHalfEven · 4) = [1, 2, 2, 2, 2] := by decide

end QuoteDesk.Number
