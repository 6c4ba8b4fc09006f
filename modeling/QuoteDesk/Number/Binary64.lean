import QuoteDesk.Number.HalfEven

/-!
# Binary floating-point numbers of 64 bits

A finite number is a sign and a significand of 53 bits scaled by a power of two. Significands are
normalised, so equal values with equal signs are equal terms. Rounding a quotient of whole numbers
goes to the nearest number, a tie to the even significand.
-/

namespace QuoteDesk.Number

namespace Binary64

/-- The pairs of significand and exponent that are used: 53 bits, the leading one set unless the
exponent is the least one. -/
def Fits (significand : Nat) (exponent : Int) : Prop :=
  significand < Nat.pow 2 53 ∧ -1074 ≤ exponent ∧ exponent ≤ 971 ∧
    (Nat.pow 2 52 ≤ significand ∨ exponent = -1074)

instance (significand : Nat) (exponent : Int) : Decidable (Fits significand exponent) :=
  inferInstanceAs (Decidable (_ ∧ _))

end Binary64

/-- A binary floating-point number of 64 bits. -/
inductive Binary64 where
  /-- The number `significand · 2 ^ exponent`, negated when `negative`. -/
  | finite (negative : Bool) (significand : Nat) (exponent : Int)
      (fits : Binary64.Fits significand exponent)
  | infinite (negative : Bool)
  | notANumber
deriving DecidableEq

namespace Binary64

def zero (negative : Bool) : Binary64 :=
  .finite negative 0 (-1074) (by decide)

instance : Inhabited Binary64 := ⟨zero false⟩

/-- The number with this significand and exponent; beyond the greatest exponent it is infinite. A
significand of one bit too many is halved. -/
def normal (negative : Bool) (significand : Nat) (exponent : Int) : Binary64 :=
  if fits : Fits significand exponent then .finite negative significand exponent fits
  else if fits : Fits (significand / 2) (exponent + 1) then
    .finite negative (significand / 2) (exponent + 1) fits
  else .infinite negative

/-- The exponent `k` with `2 ^ k ≤ num / den < 2 ^ (k + 1)`, for positive `num` and `den`. -/
def floorLog2 (num den : Nat) : Int :=
  let estimate := (num.log2 : Int) - den.log2
  if den * Nat.pow 2 estimate.toNat ≤ num * Nat.pow 2 (-estimate).toNat then estimate
  else estimate - 1

/-- The number nearest to a quotient of whole numbers. -/
def ofRatio (negative : Bool) (num den : Nat) : Binary64 :=
  if num = 0 then zero negative
  else
    let exponent := max (floorLog2 num den - 52) (-1074)
    normal negative
      (roundHalfEven (num * Nat.pow 2 (-exponent).toNat) (den * Nat.pow 2 exponent.toNat)) exponent

def ofInt (n : Int) : Binary64 :=
  ofRatio (n < 0) n.natAbs 1

/-- The number nearest to a decimal, `coefficient · 10 ^ exponent`. Exponents far outside the range
of numbers are not worked out. -/
def ofDecimal (negative : Bool) (coefficient : Nat) (exponent : Int) : Binary64 :=
  if coefficient = 0 then zero negative
  else
    let bits := (coefficient.log2 : Int)
    if bits + 3 * exponent > 1200 && exponent > 0 then .infinite negative
    else if bits + 3 * exponent < -1200 && exponent < 0 then zero negative
    else ofRatio negative (coefficient * Nat.pow 10 exponent.toNat) (Nat.pow 10 (-exponent).toNat)

/-- The numerator of the exact value of a significand and an exponent. -/
def scaledUp (significand : Nat) (exponent : Int) : Nat :=
  significand * Nat.pow 2 exponent.toNat

/-- The denominator of the exact value of a significand and an exponent. -/
def scaledDown (exponent : Int) : Nat :=
  Nat.pow 2 (-exponent).toNat

def toRat? : Binary64 → Option Rat
  | .finite negative significand exponent _ =>
    let magnitude := mkRat (scaledUp significand exponent) (scaledDown exponent)
    some (if negative then -magnitude else magnitude)
  | _ => none

def truncate? : Binary64 → Option Int
  | .finite negative significand exponent _ =>
    let magnitude : Int := scaledUp significand exponent / scaledDown exponent
    some (if negative then -magnitude else magnitude)
  | _ => none

/-- Whether a number is finite and has no fractional part. -/
def isWhole : Binary64 → Bool
  | .finite _ significand exponent _ =>
    scaledUp significand exponent % scaledDown exponent == 0
  | _ => false

def isZero : Binary64 → Bool
  | .finite _ significand _ _ => significand == 0
  | _ => false

def scaleUp (x : Binary64) (power : Nat) : Binary64 :=
  match x with
  | .finite negative significand exponent _ =>
    ofRatio negative (scaledUp significand exponent * Nat.pow 2 power) (scaledDown exponent)
  | x => x

/-- The least whole number that is not below a finite number. -/
def ceiling? (x : Binary64) : Option Int :=
  x.toRat?.map Rat.ceil

/-- The order of two numbers; there is none when one of them is not a number. -/
def compare? (x y : Binary64) : Option Ordering :=
  match x, y with
  | .notANumber, _ => none
  | _, .notANumber => none
  | .infinite a, .infinite b => some (compare b.toNat a.toNat)
  | .infinite a, _ => some (if a then .lt else .gt)
  | _, .infinite b => some (if b then .gt else .lt)
  | x, y => do
    let a ← x.toRat?
    let b ← y.toRat?
    return if a < b then .lt else if a = b then .eq else .gt

example : ofRatio false 1 2 = normal false (Nat.pow 2 52) (-53) := by decide +kernel

example : (ofInt (-3)).truncate? = some (-3) := by decide +kernel

end Binary64

end QuoteDesk.Number
