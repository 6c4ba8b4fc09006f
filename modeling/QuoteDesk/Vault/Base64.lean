/-!
# Base 64

Three bytes are written as four letters of a set of sixty-four that is safe in addresses, and the
last group is filled up with equals signs. Reading passes over characters that are no letters, takes
the letters of the older set, too, and stops at the sign that fills up a group.
-/

namespace QuoteDesk.Base64

/-- The letter of six bits. -/
def letter (bits : Nat) : Char :=
  let n := bits % 64
  if n < 26 then Char.ofNat ('A'.toNat + n)
  else if n < 52 then Char.ofNat ('a'.toNat + (n - 26))
  else if n < 62 then Char.ofNat ('0'.toNat + (n - 52))
  else if n = 62 then '-'
  else '_'

def encode : List UInt8 → List Char
  | [] => []
  | [a] =>
    let n := a.toNat * 0x10
    [letter (n / 64), letter n, '=', '=']
  | [a, b] =>
    let n := (a.toNat * 0x100 + b.toNat) * 0x4
    [letter (n / 4096), letter (n / 64), letter n, '=']
  | a :: b :: c :: rest =>
    let n := (a.toNat * 0x100 + b.toNat) * 0x100 + c.toNat
    letter (n / 262144) :: letter (n / 4096) :: letter (n / 64) :: letter n :: encode rest

/-- The six bits of a letter; `-` and `+` are the same, and so are `_` and `/`. -/
def bits? (byte : UInt8) : Option Nat :=
  let n := byte.toNat
  if 0x41 ≤ n && n ≤ 0x5A then some (n - 0x41)
  else if 0x61 ≤ n && n ≤ 0x7A then some (n - 0x61 + 26)
  else if 0x30 ≤ n && n ≤ 0x39 then some (n - 0x30 + 52)
  else if n = 0x2D || n = 0x2B then some 62
  else if n = 0x5F || n = 0x2F then some 63
  else none

/-- The whole bytes in the bits of a group of letters. -/
def wholeBytes (group : List Nat) : List UInt8 :=
  match group with
  | [a, b, c, d] =>
    [UInt8.ofNat (a * 4 + b / 16), UInt8.ofNat (b * 16 + c / 4), UInt8.ofNat (c * 64 + d)]
  | [a, b, c] => [UInt8.ofNat (a * 4 + b / 16), UInt8.ofNat (b * 16 + c / 4)]
  | [a, b] => [UInt8.ofNat (a * 4 + b / 16)]
  | _ => []

/-- Reads letters. `group` are the bits of the group begun, and `filled` is the number of signs that
fill it up so far. A group that is begun and neither completed nor filled up is a fault. -/
def decodeFrom (group : List Nat) (filled : Nat) : List UInt8 → Option (List UInt8)
  | [] => if group.isEmpty then some [] else none
  | byte :: rest =>
    if byte = 0x3D then
      if 2 ≤ group.length then
        if 4 ≤ group.length + filled + 1 then some (wholeBytes group)
        else decodeFrom group (filled + 1) rest
      else decodeFrom group filled rest
    else
      match bits? byte with
      | none => decodeFrom group filled rest
      | some bits =>
        let group := group ++ [bits]
        if group.length = 4 then (wholeBytes group ++ ·) <$> decodeFrom [] 0 rest
        else decodeFrom group 0 rest

/-- Reads letters; nothing where they break off. -/
def decode (letters : List UInt8) : Option (List UInt8) :=
  decodeFrom [] 0 letters

example : encode [0x66, 0x6F, 0x6F, 0x62] = ['Z', 'm', '9', 'v', 'Y', 'g', '=', '='] := by
  decide +kernel

example : decode [0x5A, 0x6D, 0x20, 0x38, 0x3D] = some [0x66, 0x6F] := by decide +kernel

end QuoteDesk.Base64
