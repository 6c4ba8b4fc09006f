import QuoteDesk.Text.Printable

/-!
# Quoted forms of texts and bytes

A quoted text stands between single quotes, unless it holds a single quote and no double quote;
then it stands between double quotes. Inside, the backslash and the chosen quote are escaped, and
characters without a visible form are written by their code point in two, four or eight
hexadecimal digits. Bytes are quoted alike, with a leading `b` and every byte outside ASCII escaped.
-/

namespace QuoteDesk.Text

/-- The lower-case hexadecimal digits of a number, filled with zeros to a width. -/
def hexText (width n : Nat) : List Char :=
  let digits := Nat.toDigits 16 n
  List.replicate (width - digits.length) '0' ++ digits

def quoteMark (chars : List Char) : Char :=
  if chars.contains '\'' && !chars.contains '"' then '"' else '\''

def codePointEscape (n : Nat) : List Char :=
  if n < 0x100 then '\\' :: 'x' :: hexText 2 n
  else if n < 0x10000 then '\\' :: 'u' :: hexText 4 n
  else '\\' :: 'U' :: hexText 8 n

def quotedChar (mark c : Char) : List Char :=
  if c = mark || c = '\\' then ['\\', c]
  else if c = '\n' then ['\\', 'n']
  else if c = '\r' then ['\\', 'r']
  else if c = '\t' then ['\\', 't']
  else if isHidden c then codePointEscape c.toNat
  else [c]

/-- A text between quotes. -/
def quotedChars (chars : List Char) : List Char :=
  let mark := quoteMark chars
  mark :: chars.flatMap (quotedChar mark) ++ [mark]

def quoted (s : String) : String :=
  String.ofList (quotedChars s.toList)

def quotedByte (mark : Char) (byte : UInt8) : List Char :=
  if byte.toNat < 0x7F then
    let c := Char.ofNat byte.toNat
    if c.toNat < 0x20 && c ≠ '\n' && c ≠ '\r' && c ≠ '\t' then codePointEscape byte.toNat
    else quotedChar mark c
  else codePointEscape byte.toNat

/-- A sequence of bytes between quotes, after a `b`. -/
def quotedBytes (bytes : List UInt8) : String :=
  let mark := quoteMark (bytes.map fun byte => Char.ofNat byte.toNat)
  String.ofList ('b' :: mark :: bytes.flatMap (quotedByte mark) ++ [mark])

example : quotedChars ['i', 't', '\'', 's'] = ['"', 'i', 't', '\'', 's', '"'] := by decide +kernel

example : quotedChars ['a', '\x00'] = ['\'', 'a', '\\', 'x', '0', '0', '\''] := by decide +kernel

end QuoteDesk.Text
