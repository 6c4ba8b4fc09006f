import QuoteDesk.Number.Binary64
import QuoteDesk.Number.Integer

/-!
# Binary numbers as text

A number is written with the fewest significant digits that read back as the same number, and
of those with the digits nearest to it. From `0.0001` up to below `10 ^ 16` it is written with a
point, outside with an exponent of at least two digits.
-/

namespace QuoteDesk.Number.Binary64

open QuoteDesk.Text

/-! ## Choosing the digits -/

/-- A decimal `coefficient · 10 ^ exponent`. -/
structure Digits where
  coefficient : Nat
  exponent : Int
deriving DecidableEq, Repr

/-- The exact decimal value of a significand and an exponent of two. -/
def exactDigits (significand : Nat) (exponent : Int) : Digits :=
  ⟨significand * Nat.pow 2 exponent.toNat * Nat.pow 5 (-exponent).toNat, min exponent 0⟩

/-- The two neighbours of a decimal on the grid whose unit is `10 ^ dropped` units of its own, the
nearer one first; of two equally near ones the even one is first. -/
def neighbours (exact : Digits) (dropped : Nat) : List Digits :=
  let unit := Nat.pow 10 dropped
  let low := exact.coefficient / unit
  let near := roundHalfEven exact.coefficient unit
  let far := if near = low then low + 1 else low
  [⟨near, exact.exponent + dropped⟩, ⟨far, exact.exponent + dropped⟩]

/-- The shortest decimal, nearest to the number, that reads back as the number. Where no decimal
of at most 17 digits does, the exact one is taken. -/
def shortestDigits (significand : Nat) (exponent : Int) : Digits :=
  let exact := exactDigits significand exponent
  let size := decimalLength exact.coefficient
  let value := normal false significand exponent
  let readsBack := fun d : Digits => ofDecimal false d.coefficient d.exponent == value
  ((List.range 17).findSome? fun fewer =>
    (neighbours exact (size - (fewer + 1))).find? readsBack).getD exact

/-! ## Laying the digits out -/

/-- Writes a decimal with a point or an exponent; zeros at the end of the coefficient are not
significant. -/
def layOut (digits : Digits) : String :=
  let all := Nat.toDigits 10 digits.coefficient
  let kept := match trimEnd (· == '0') all with
    | [] => ['0']
    | kept => kept
  let point := if digits.coefficient = 0 then 1 else digits.exponent + all.length
  if -4 < point && point ≤ 16 then
    if point ≤ 0 then
      String.ofList (['0', '.'] ++ List.replicate (-point).toNat '0' ++ kept)
    else if (kept.length : Int) ≤ point then
      String.ofList (kept ++ List.replicate (point.toNat - kept.length) '0' ++ ['.', '0'])
    else String.ofList (kept.take point.toNat ++ ['.'] ++ kept.drop point.toNat)
  else
    let power := point - 1
    let powerDigits := Nat.toDigits 10 power.natAbs
    String.ofList
      (kept.take 1 ++ (if kept.length = 1 then [] else '.' :: kept.drop 1) ++
        ['e', if power < 0 then '-' else '+'] ++
        List.replicate (2 - powerDigits.length) '0' ++ powerDigits)

def write : Binary64 → String
  | .finite negative significand exponent _ =>
    (if negative then "-" else "") ++
      layOut (if significand = 0 then ⟨0, 0⟩ else shortestDigits significand exponent)
  | .infinite negative => if negative then "-inf" else "inf"
  | .notANumber => "nan"

/-! ## Reading -/

/-- Removes single low lines between digits; gives nothing when one stands elsewhere. -/
def dropMarks (before : Option Char) : List Char → Option (List Char)
  | [] => if before = some '_' then none else some []
  | c :: rest =>
    if c = '_' then
      if before.any isAsciiDigit then dropMarks (some c) rest else none
    else if before = some '_' && !isAsciiDigit c then none
    else (dropMarks (some c) rest).map (c :: ·)

/-- Reads a word of digits with an optional sign, to its end. -/
def readPower (chars : List Char) : Option Int :=
  let (negative, digits) := splitSign chars
  if digits.isEmpty || !digits.all isAsciiDigit then none else some (signedValue negative digits)

/-- Reads digits with an optional point and an optional power of ten, to the end. -/
def readNumeral (negative : Bool) (chars : List Char) : Option Binary64 :=
  let whole := chars.takeWhile isAsciiDigit
  let afterWhole := chars.dropWhile isAsciiDigit
  let (fraction, rest) := match afterWhole with
    | '.' :: more => (more.takeWhile isAsciiDigit, more.dropWhile isAsciiDigit)
    | _ => ([], afterWhole)
  if whole.isEmpty && fraction.isEmpty then none
  else
    let power := match rest with
      | [] => some 0
      | c :: more => if c = 'e' || c = 'E' then readPower more else none
    power.map fun power =>
      ofDecimal negative (decimalValue (whole ++ fraction)) (power - fraction.length)

/-- Reads a number or the name of one that is not finite, in capitals or small letters. -/
def readWord (chars : List Char) : Option Binary64 :=
  let (negative, body) := splitSign chars
  let name := String.ofList (body.map Char.toLower)
  if name = "inf" || name = "infinity" then some (.infinite negative)
  else if name = "nan" then some .notANumber
  else readNumeral negative body

def read? (source : String) : Option Binary64 :=
  let body := trimEnd isNumberBlank (trimStart isNumberBlank (plainChars source.toList))
  (dropMarks none body).bind readWord

def unreadable (source : String) : String :=
  "could not convert string to float: " ++ quoted source

end QuoteDesk.Number.Binary64
