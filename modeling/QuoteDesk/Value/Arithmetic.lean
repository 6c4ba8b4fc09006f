import QuoteDesk.Fault

/-!
# Numbers among values

Whole numbers, truth values, binary numbers and decimals are compared by what they stand for,
exactly. A value that is no number is compared with none.
-/

namespace QuoteDesk

open Number Text

namespace Number

/-- The order of a decimal and a rational number. Powers of ten that settle the order alone are not
worked out. -/
def Decimal.compareRat (negative : Bool) (coefficient : Nat) (exponent : Int) (r : Rat) : Ordering :=
  let sign : Int := if coefficient = 0 then 0 else if negative then -1 else 1
  if sign ≠ r.num.sign then compare sign r.num.sign
  else if sign = 0 then .eq
  else
    let magnitudes :=
      if (decimalLength r.num.natAbs : Int) < exponent then Ordering.gt
      else if exponent + decimalLength coefficient + decimalLength r.den < 0 then .lt
      else
        compare (coefficient * Nat.pow 10 exponent.toNat * r.den)
          (r.num.natAbs * Nat.pow 10 (-exponent).toNat)
    if sign < 0 then magnitudes.swap else magnitudes

end Number

namespace Value

/-- A value as a number on a line that also has two ends. -/
inductive Magnitude where
  | rational (r : Rat)
  | decimal (negative : Bool) (coefficient : Nat) (exponent : Int)
  | infinite (negative : Bool)
  /-- A mark that there is no number; comparing may be refused. -/
  | unordered (refused : Bool)

def magnitude? : Value → Option Magnitude
  | .int n => some (.rational n)
  | .bool b => some (.rational (b.toNat : Nat))
  | .float .notANumber => some (.unordered false)
  | .float (.infinite negative) => some (.infinite negative)
  | .float x => x.toRat?.map .rational
  | .decimal (.finite negative coefficient exponent) => some (.decimal negative coefficient exponent)
  | .decimal (.infinite negative) => some (.infinite negative)
  | .decimal (.nan _ _ _) => some (.unordered true)
  | _ => none

def compareRat (a b : Rat) : Ordering :=
  if a < b then .lt else if a = b then .eq else .gt

/-- A whole number with a sign. -/
def signedWhole (negative : Bool) (magnitude : Nat) : Int :=
  if negative then -(magnitude : Int) else magnitude

/-- The order of two magnitudes; there is none where one is no number. -/
def Magnitude.compare? (x y : Magnitude) : Except Fault (Option Ordering) :=
  match x, y with
  | .unordered true, _ => .error (.arithmetic .invalidOperation)
  | _, .unordered true => .error (.arithmetic .invalidOperation)
  | .unordered false, _ => .ok none
  | _, .unordered false => .ok none
  | .infinite a, .infinite b => .ok (some (compare b.toNat a.toNat))
  | .infinite a, _ => .ok (some (if a then .lt else .gt))
  | _, .infinite b => .ok (some (if b then .gt else .lt))
  | .rational a, .rational b => .ok (some (compareRat a b))
  | .decimal s c e, .rational b => .ok (some (Decimal.compareRat s c e b))
  | .rational a, .decimal s c e => .ok (some (Decimal.compareRat s c e a).swap)
  | .decimal s c e, .decimal t d f =>
    let shift := min e f
    .ok (some (compareRat
      (Rat.ofInt (signedWhole s (c * Nat.pow 10 (e - shift).toNat)))
      (Rat.ofInt (signedWhole t (d * Nat.pow 10 (f - shift).toNat)))))

/-- The order of two values that are numbers; `sign` is the sign of the comparison asked for. -/
def compare? (sign : String) (x y : Value) : Except Fault (Option Ordering) :=
  match x.magnitude?, y.magnitude? with
  | some a, some b => a.compare? b
  | _, _ => .error (.wrongType
      s!"'{sign}' not supported between instances of '{x.typeName}' and '{y.typeName}'")

def less (x y : Value) : Except Fault Bool :=
  (compare? "<" x y).map (· == some .lt)

def greater (x y : Value) : Except Fault Bool :=
  (compare? ">" x y).map (· == some .gt)

def atLeast (x y : Value) : Except Fault Bool :=
  (compare? ">=" x y).map fun order => order == some .gt || order == some .eq

def atMost (x y : Value) : Except Fault Bool :=
  (compare? "<=" x y).map fun order => order == some .lt || order == some .eq

/-- The greater of two values; of equal ones the first. -/
def maximum (x y : Value) : Except Fault Value := do
  return if ← greater y x then y else x

/-- The smaller of two values; of equal ones the first. -/
def minimum (x y : Value) : Except Fault Value := do
  return if ← less y x then y else x

mutual

/-- Whether two values are the same; numbers are by their size, whatever their type, and mappings
whatever the order of their entries. -/
def same : Value → Value → Bool
  | .null, .null => true
  | .text a, .text b => a = b
  | .bytes a, .bytes b => a = b
  | .list a, .list b => sameItems a b
  | .dict a, .dict b => a.length = b.length && sameEntries a b
  | x, y =>
    match x.magnitude?, y.magnitude? with
    | some a, some b => (a.compare? b).toOption == some (some .eq)
    | _, _ => false

def sameItems : List Value → List Value → Bool
  | [], [] => true
  | x :: xs, y :: ys => same x y && sameItems xs ys
  | _, _ => false

/-- Whether all entries of a mapping are in another one. -/
def sameEntries : List (String × Value) → List (String × Value) → Bool
  | [], _ => true
  | (name, x) :: rest, others =>
    match others.lookup name with
    | some y => same x y && sameEntries rest others
    | none => false

end

/-- The binary number nearest to a value; texts and bytes are read. -/
def toBinary64 (value : Value) : Except Fault Binary64 :=
  match value with
  | .float x => .ok x
  | .bool b => .ok (.ofInt b.toNat)
  | .int n =>
    match Binary64.ofInt n with
    | .infinite _ => .error (.tooLarge "int too large to convert to float")
    | x => .ok x
  | .decimal (.finite negative coefficient exponent) =>
    .ok (.ofDecimal negative coefficient exponent)
  | .decimal (.infinite negative) => .ok (.infinite negative)
  | .decimal (.nan _ true _) => .error (.badValue "cannot convert signaling NaN to float")
  | .decimal (.nan _ false _) => .ok .notANumber
  | .text s =>
    match Binary64.read? s with
    | some x => .ok x
    | none => .error (.badValue (Binary64.unreadable s))
  | .bytes data =>
    match Binary64.read? (String.ofList (data.map fun byte => Char.ofNat byte.toNat)) with
    | some x => .ok x
    | none => .error (.badValue ("could not convert string to float: " ++ quotedBytes data))
  | value => .error (.wrongType
      s!"float() argument must be a string or a real number, not '{value.typeName}'")

end Value

end QuoteDesk
