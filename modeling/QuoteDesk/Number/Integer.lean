import QuoteDesk.Text.Blank
import QuoteDesk.Text.Digit
import QuoteDesk.Text.Quoted

/-!
# Whole numbers as text

A whole number may be written with blanks around it, a sign in front, the decimal digits of any
script and single low lines between two digits. Neither reading nor writing handles more than
4300 digits.
-/

namespace QuoteDesk.Number

open QuoteDesk.Text

/-- The most digits that are read or written in one number. -/
def digitLimit : Nat := 4300

/-- Why a text gives no whole number, or a whole number no text. -/
inductive IntegerFault where
  /-- The text does not write a whole number. -/
  | malformed (source : String)
  /-- The text has more digits than are read. -/
  | tooManyDigits (count : Nat)
  /-- The number has more digits than are written. -/
  | tooLongToWrite
deriving DecidableEq, Repr

/-- The wording of the fault; a malformed text is shown up to 200 characters of its quoted form. -/
def IntegerFault.message : IntegerFault → String
  | .malformed source =>
    "invalid literal for int() with base 10: " ++ String.ofList ((quotedChars source.toList).take 200)
  | .tooManyDigits count =>
    s!"Exceeds the limit ({digitLimit} digits) for integer string conversion: value has " ++
      s!"{count} digits; use sys.set_int_max_str_digits() to increase the limit"
  | .tooLongToWrite =>
    s!"Exceeds the limit ({digitLimit} digits) for integer string conversion; " ++
      "use sys.set_int_max_str_digits() to increase the limit"

/-- A character as a number reader sees it: digits of every script as those of ASCII, blanks
outside ASCII as spaces, other characters outside ASCII not at all. -/
def plainChar? (c : Char) : Option Char :=
  if c.toNat < 127 then some c
  else if isBlank c then some ' '
  else (digitValue? c).map fun value => Char.ofNat ('0'.toNat + value)

/-- A text as a number reader sees it: what it cannot read becomes a question mark, and the text
ends there. A text of ASCII characters is seen as it is. -/
def plainChars (chars : List Char) : List Char :=
  if chars.all (fun c => c.toNat < 128) then chars
  else
    let seen := chars.map plainChar?
    (seen.takeWhile Option.isSome).filterMap id ++
      (if seen.all Option.isSome then [] else ['?'])

/-- The blanks around a number: tab to carriage return and the space. -/
def isNumberBlank (c : Char) : Bool :=
  (9 ≤ c.toNat && c.toNat ≤ 13) || c == ' '

/-- Splits a sign off; the result says whether it was a minus. -/
def splitSign : List Char → Bool × List Char
  | '-' :: rest => (true, rest)
  | '+' :: rest => (false, rest)
  | rest => (false, rest)

/-- Splits off digits between which single low lines may stand; gives nothing when a low line
stands elsewhere or no digit is there. `needsDigit` says that a digit has to come next. -/
def splitDigits (needsDigit : Bool) (taken : List Char) : List Char → Option (List Char × List Char)
  | [] => if needsDigit then none else some (taken.reverse, [])
  | c :: rest =>
    if isAsciiDigit c then splitDigits false (c :: taken) rest
    else if needsDigit then none
    else if c = '_' then splitDigits true taken rest
    else some (taken.reverse, c :: rest)

def signedValue (negative : Bool) (digits : List Char) : Int :=
  if negative then -(decimalValue digits : Int) else decimalValue digits

/-- Reads a whole number. Too many digits are refused before what follows them is looked at. -/
def readInteger (source : String) : Except IntegerFault Int :=
  let (negative, body) := splitSign ((plainChars source.toList).dropWhile isNumberBlank)
  match splitDigits true [] body with
  | none => .error (.malformed source)
  | some (digits, rest) =>
    if digitLimit < digits.length then .error (.tooManyDigits digits.length)
    else if rest.all isNumberBlank then .ok (signedValue negative digits)
    else .error (.malformed source)

/-- Writes a whole number in decimal digits, with a minus sign in front of a negative one. -/
def writeInteger (n : Int) : Except IntegerFault String :=
  if digitLimit < decimalLength n.natAbs then .error .tooLongToWrite else .ok (integerText n)

example : splitDigits true [] ['1', '_', '2', ' '] = some (['1', '2'], [' ']) := by decide

example : splitDigits true [] ['1', '_', '_', '2'] = none := by decide

end QuoteDesk.Number
