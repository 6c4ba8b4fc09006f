import QuoteDesk.Number.HalfEven
import QuoteDesk.Text.Digit

/-!
# Decimal numbers

A decimal keeps its coefficient and its power of ten, so `1.50` and `1.5` are equal in value and
different in form. Sums and products are exact and then rounded to 28 significant digits, a tie to
the even digit; powers of ten are bounded, and a result beyond the bound is refused.
-/

namespace QuoteDesk.Number

/-- A decimal number: a signed coefficient times a power of ten, an infinity, or a mark that there
is no number, which may carry digits and may be of the kind that no operation accepts. -/
inductive Decimal where
  | finite (negative : Bool) (coefficient : Nat) (exponent : Int)
  | infinite (negative : Bool)
  | nan (negative : Bool) (signalling : Bool) (payload : Nat)
deriving DecidableEq, Repr

inductive DecimalFault where
  /-- The operation has no meaning for its operands. -/
  | invalidOperation
  /-- The result is too large. -/
  | overflow
deriving DecidableEq, Repr

namespace Decimal

open Text (decimalLength)

/-- The number of significant digits that a result keeps. -/
def precision : Nat := 28

/-- The greatest power of ten of the leading digit of a result. -/
def greatestPower : Int := 999999

/-- The least power of ten of the last digit of a result. -/
def leastExponent : Int := -1000026

/-- The least power of ten of the last digit for a coefficient of this many digits. -/
def roundingExponent (digits : Nat) (exponent : Int) : Int :=
  max leastExponent (exponent + digits - precision)

def zero : Decimal := .finite false 0 0

def ofInt (n : Int) : Decimal := .finite (n < 0) n.natAbs 0

/-- A coefficient without its last digits, rounded; fewer digits than are dropped leave nothing. -/
def withoutLast (dropped coefficient : Nat) : Nat :=
  if decimalLength coefficient < dropped then 0 else roundHalfEven coefficient (Nat.pow 10 dropped)

/-- Rounds an exact result to the precision and checks its bounds. -/
def rounded (negative : Bool) (coefficient : Nat) (exponent : Int) : Except DecimalFault Decimal :=
  if coefficient = 0 then
    .ok (.finite negative 0 (min greatestPower (max leastExponent exponent)))
  else
    let target := roundingExponent (decimalLength coefficient) exponent
    let (kept, power) :=
      if exponent < target then (withoutLast (target - exponent).toNat coefficient, target)
      else (coefficient, exponent)
    let (kept, power) :=
      if kept = Nat.pow 10 precision then (Nat.pow 10 (precision - 1), power + 1) else (kept, power)
    if greatestPower < power + decimalLength kept - 1 && kept ≠ 0 then .error .overflow
    else .ok (.finite negative kept power)

/-- The operand that is not a number, if one of the two is; the first one that signals, else the
first. A signalling one is refused; the digits it carries are cut to the precision. -/
def notANumber? (x y : Decimal) : Option (Except DecimalFault Decimal) :=
  match x, y with
  | .nan _ true _, _ => some (.error .invalidOperation)
  | _, .nan _ true _ => some (.error .invalidOperation)
  | .nan negative false payload, _ => some (.ok (.nan negative false (payload % Nat.pow 10 precision)))
  | _, .nan negative false payload => some (.ok (.nan negative false (payload % Nat.pow 10 precision)))
  | _, _ => none

def mul (x y : Decimal) : Except DecimalFault Decimal :=
  match notANumber? x y with
  | some result => result
  | none =>
    match x, y with
    | .finite a m e, .finite b n f => rounded (a != b) (m * n) (e + f)
    | .infinite a, .infinite b => .ok (.infinite (a != b))
    | .infinite a, .finite b n _ =>
      if n = 0 then .error .invalidOperation else .ok (.infinite (a != b))
    | .finite a m _, .infinite b =>
      if m = 0 then .error .invalidOperation else .ok (.infinite (a != b))
    | _, _ => .error .invalidOperation

/-- The signed coefficient of a decimal over a smaller power of ten. -/
def alignedTo (target : Int) (negative : Bool) (coefficient : Nat) (exponent : Int) : Int :=
  if coefficient = 0 then 0
  else
    let aligned := coefficient * Nat.pow 10 (exponent - target).toNat
    if negative then -(aligned : Int) else aligned

/-- Stands in for a summand too small to change more than the rounding of a greater one: one unit
far behind the last digit kept. A summand that is not that small stays as it is. -/
def behind (greater : Nat) (greaterExponent : Int) (coefficient : Nat) (exponent : Int) : Nat × Int :=
  let size := decimalLength greater
  let place := greaterExponent - 1 - (if precision < size then 0 else (precision - size + 1 : Int))
  if greater ≠ 0 && exponent + decimalLength coefficient - 1 < place then
    (if coefficient = 0 then 0 else 1, place)
  else (coefficient, exponent)

/-- The sum of two finite decimals. A zero sum is negative only if both summands are. -/
def addFinite (a : Bool) (m : Nat) (e : Int) (b : Bool) (n : Nat) (f : Int) :
    Except DecimalFault Decimal :=
  let (m, e, n, f) :=
    if e < f then
      let (m, e) := behind n f m e
      (m, e, n, f)
    else if f < e then
      let (n, f) := behind m e n f
      (m, e, n, f)
    else (m, e, n, f)
  let target := min e f
  let total := alignedTo target a m e + alignedTo target b n f
  rounded (if total = 0 then a && b else total < 0) total.natAbs target

def add (x y : Decimal) : Except DecimalFault Decimal :=
  match notANumber? x y with
  | some result => result
  | none =>
    match x, y with
    | .finite a m e, .finite b n f => addFinite a m e b n f
    | .infinite a, .infinite b => if a = b then .ok (.infinite a) else .error .invalidOperation
    | .infinite a, _ => .ok (.infinite a)
    | _, .infinite b => .ok (.infinite b)
    | _, _ => .error .invalidOperation

def toRat? : Decimal → Option Rat
  | .finite negative coefficient exponent =>
    let magnitude := mkRat (coefficient * Nat.pow 10 exponent.toNat) (Nat.pow 10 (-exponent).toNat)
    some (if negative then -magnitude else magnitude)
  | _ => none

end Decimal

end QuoteDesk.Number
