import QuoteDesk.Text.Digit

/-!
# Points in time

A point in time is a date, a time of day with microseconds and, if it is known, the distance to
universal time. It is written in the order of its parts, microseconds only if there are any.
-/

namespace QuoteDesk

open Text

/-- A distance to universal time. -/
structure TimeOffset where
  west : Bool
  hours : Nat
  minutes : Nat
  seconds : Nat
deriving DecidableEq, Repr

structure Timestamp where
  year : Nat
  month : Nat
  day : Nat
  hour : Nat
  minute : Nat
  second : Nat
  microsecond : Nat
  offset : Option TimeOffset
deriving DecidableEq, Repr

namespace Timestamp

/-- A number filled with zeros to a width. -/
def filled (width n : Nat) : String :=
  let digits := Nat.toDigits 10 n
  String.ofList (List.replicate (width - digits.length) '0' ++ digits)

/-- The text of a distance to universal time; seconds only if there are any. -/
def offsetText (offset : TimeOffset) : String :=
  (if offset.west then "-" else "+") ++ filled 2 offset.hours ++ ":" ++ filled 2 offset.minutes ++
    (if offset.seconds = 0 then "" else ":" ++ filled 2 offset.seconds)

def text (time : Timestamp) : String :=
  filled 4 time.year ++ "-" ++ filled 2 time.month ++ "-" ++ filled 2 time.day ++ "T" ++
    filled 2 time.hour ++ ":" ++ filled 2 time.minute ++ ":" ++ filled 2 time.second ++
    (if time.microsecond = 0 then "" else "." ++ filled 6 time.microsecond) ++
    (time.offset.map offsetText).getD ""

/-! ## Reading -/

/-- The number that exactly `width` digits at the front of a text write. -/
def splitNumber (width : Nat) (chars : List Char) : Option (Nat × List Char) :=
  let digits := chars.take width
  if digits.length = width && digits.all isAsciiDigit then
    some (decimalValue digits, chars.drop width)
  else none

def splitChar (c : Char) : List Char → Option (List Char)
  | first :: rest => if first = c then some rest else none
  | [] => none

/-- The number behind a mark, or zero where the mark does not stand. -/
def splitOptional (mark : Char) (width : Nat) (chars : List Char) : Option (Nat × List Char) :=
  match splitChar mark chars with
  | none => some (0, chars)
  | some rest => splitNumber width rest

/-- The microseconds behind a point: at least one digit, of which six count. -/
def splitFraction (chars : List Char) : Option (Nat × List Char) :=
  match splitChar '.' chars with
  | none => some (0, chars)
  | some rest =>
    let digits := rest.takeWhile isAsciiDigit
    if digits.isEmpty then none
    else
      let six := (digits ++ List.replicate 6 '0').take 6
      some (decimalValue six, rest.dropWhile isAsciiDigit)

/-- The distance to universal time at the end of a text. -/
def readOffset (chars : List Char) : Option (Option TimeOffset) :=
  match chars with
  | [] => some none
  | ['Z'] => some (some ⟨false, 0, 0, 0⟩)
  | sign :: rest =>
    if sign = '+' || sign = '-' then do
      let (hours, rest) ← splitNumber 2 rest
      let (minutes, rest) ← splitOptional ':' 2 rest
      let (seconds, rest) ← splitOptional ':' 2 rest
      if rest.isEmpty then some (some ⟨sign == '-', hours, minutes, seconds⟩) else none
    else none

/-- Reads a point in time; without a time of day it is midnight. -/
def read? (source : String) : Option Timestamp := do
  let (year, rest) ← splitNumber 4 source.toList
  let (month, rest) ← splitNumber 2 (← splitChar '-' rest)
  let (day, rest) ← splitNumber 2 (← splitChar '-' rest)
  match rest with
  | [] => return ⟨year, month, day, 0, 0, 0, 0, none⟩
  | _ :: rest =>
    let (hour, rest) ← splitNumber 2 rest
    let (minute, rest) ← splitOptional ':' 2 rest
    let (second, rest) ← splitOptional ':' 2 rest
    let (microsecond, rest) ← splitFraction rest
    let offset ← readOffset rest
    return ⟨year, month, day, hour, minute, second, microsecond, offset⟩

end Timestamp

end QuoteDesk
