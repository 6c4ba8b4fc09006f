import QuoteDesk.Number.Decimal
import QuoteDesk.Number.Integer

/-!
# Decimals as text

A decimal is written with all digits of its coefficient: with a point when its power of ten is not
positive and the leading digit stands at most six places behind the point, with an exponent
otherwise. Reading drops low lines and takes the digits of every script; it is exact, so a number
outside the range of exact decimals is refused.
-/

namespace QuoteDesk.Number.Decimal

open QuoteDesk.Text

/-! ## Writing -/

/-- The digits and the power of ten of a finite decimal, laid out. -/
def layOut (coefficient : Nat) (exponent : Int) : String :=
  let digits := Nat.toDigits 10 coefficient
  let point := exponent + digits.length
  if exponent ≤ 0 && -6 < point then
    if exponent = 0 then String.ofList digits
    else if point ≤ 0 then
      String.ofList (['0', '.'] ++ List.replicate (-point).toNat '0' ++ digits)
    else String.ofList (digits.take point.toNat ++ ['.'] ++ digits.drop point.toNat)
  else
    let power := point - 1
    String.ofList (digits.take 1 ++ (if digits.length = 1 then [] else '.' :: digits.drop 1)) ++
      "E" ++ (if power < 0 then "-" else "+") ++ decimalText power.natAbs

def write : Decimal → String
  | .finite negative coefficient exponent => (if negative then "-" else "") ++ layOut coefficient exponent
  | .infinite negative => if negative then "-Infinity" else "Infinity"
  | .nan negative signalling payload =>
    (if negative then "-" else "") ++ (if signalling then "sNaN" else "NaN") ++
      (if payload = 0 then "" else decimalText payload)

/-! ## Reading -/

/-- The greatest power of ten of the leading digit that can be read. -/
def readableGreatest : Int := 999999999999999999

/-- The least power of ten of the last digit that can be read. -/
def readableLeast : Int := -1999999999999999997

/-- Removes a word from the front, in capitals or small letters. -/
def dropWord (word : List Char) (chars : List Char) : Option (List Char) :=
  if (chars.take word.length).map Char.toLower = word then some (chars.drop word.length) else none

def readPayload (negative signalling : Bool) (chars : List Char) : Option Decimal :=
  if chars.all isAsciiDigit then some (.nan negative signalling (decimalValue chars)) else none

def readPower (chars : List Char) : Option Int :=
  let (negative, digits) := splitSign chars
  if digits.isEmpty || !digits.all isAsciiDigit then none else some (signedValue negative digits)

/-- Reads digits with an optional point and an optional power of ten, to the end. -/
def readNumeral (negative : Bool) (chars : List Char) : Option Decimal :=
  let whole := chars.takeWhile isAsciiDigit
  let afterWhole := chars.dropWhile isAsciiDigit
  let (fraction, rest) := match afterWhole with
    | '.' :: more => (more.takeWhile isAsciiDigit, more.dropWhile isAsciiDigit)
    | _ => ([], afterWhole)
  if whole.isEmpty && fraction.isEmpty then none
  else
    let power := match rest with
      | [] => some 0
      | c :: more => if c = 'e' || c = 'E' then readPower more else none
    power.bind fun power =>
      let coefficient := decimalValue (whole ++ fraction)
      let exponent := power - fraction.length
      if readableGreatest < exponent + decimalLength coefficient - 1 || exponent < readableLeast then
        none
      else some (.finite negative coefficient exponent)

/-- A character as a reader of decimals sees it; nothing for a character that it refuses. -/
def seenChar? (c : Char) : Option Char :=
  if 0 < c.toNat && c.toNat ≤ 127 then some c
  else if isBlank c then some ' '
  else (digitValue? c).map fun value => Char.ofNat ('0'.toNat + value)

/-- Reads a decimal with blanks around it. -/
def read? (source : String) : Option Decimal :=
  let seen := ((trim source.toList).filter (· ≠ '_')).map seenChar?
  if seen.all Option.isSome then
    let (negative, body) := splitSign (seen.filterMap id)
    match dropWord ['n', 'a', 'n'] body, dropWord ['s', 'n', 'a', 'n'] body with
    | some rest, _ => readPayload negative false rest
    | _, some rest => readPayload negative true rest
    | _, _ =>
      let name := String.ofList (body.map Char.toLower)
      if name = "inf" || name = "infinity" then some (.infinite negative)
      else readNumeral negative body
  else none

end QuoteDesk.Number.Decimal
