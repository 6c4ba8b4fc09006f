/-!
# UTF-8

Bytes are read as UTF-8 either strictly, with the first fault located, or leniently, with one
replacement character for each faulty piece. A faulty piece is the longest start of a well-formed
sequence that is there, and at least one byte. Characters are written in the shortest form.
-/

namespace QuoteDesk.Text.Utf8

/-- What is wrong with a piece of bytes. -/
inductive Problem where
  /-- No sequence starts with this byte. -/
  | startByte
  /-- The sequence is broken off by a byte that cannot continue it. -/
  | continuationByte
  /-- The bytes end before the sequence does. -/
  | endOfData
  deriving DecidableEq, Repr

def Problem.wording : Problem → String
  | .startByte => "invalid start byte"
  | .continuationByte => "invalid continuation byte"
  | .endOfData => "unexpected end of data"

/-- The first faulty piece of a sequence of bytes: its first byte, where it starts and how long
it is. -/
structure Fault where
  problem : Problem
  byte : UInt8
  start : Nat
  size : Nat
  deriving DecidableEq, Repr

/-- A character with the number of its bytes, or a faulty piece with the number of its bytes. -/
inductive Piece where
  | char (c : Char) (size : Nat)
  | faulty (problem : Problem) (size : Nat)
  deriving DecidableEq, Repr

/-- The byte can stand after the first of a sequence. -/
def isContinuation (byte : UInt8) : Bool :=
  0x80 ≤ byte && byte ≤ 0xBF

/-- The number of bytes that a first byte announces, or zero when no sequence starts with it. -/
def announcedSize (byte : UInt8) : Nat :=
  if byte < 0x80 then 1
  else if byte < 0xC2 then 0
  else if byte < 0xE0 then 2
  else if byte < 0xF0 then 3
  else if byte < 0xF5 then 4
  else 0

/-- The second byte is one that may follow the first: no overlong form, no surrogate, nothing
above the last code point. -/
def mayFollow (first second : UInt8) : Bool :=
  isContinuation second &&
    !(first == 0xE0 && second < 0xA0) && !(first == 0xED && 0xA0 ≤ second) &&
    !(first == 0xF0 && second < 0x90) && !(first == 0xF4 && 0x90 ≤ second)

/-- Adds the six bits that a continuation byte carries. -/
def withBits (code : Nat) (byte : UInt8) : Nat :=
  code * 0x40 + byte.toNat % 0x40

/-- Reads the bytes that are still owed, `seen` of them read so far. -/
def readRest (seen : Nat) (code : Nat) : Nat → List UInt8 → Piece
  | 0, _ => .char (Char.ofNat code) seen
  | _ + 1, [] => .faulty .endOfData seen
  | owed + 1, byte :: rest =>
    if isContinuation byte then readRest (seen + 1) (withBits code byte) owed rest
    else .faulty .continuationByte seen

/-- The piece that starts with `first`. -/
def piece (first : UInt8) (rest : List UInt8) : Piece :=
  match announcedSize first with
  | 0 => .faulty .startByte 1
  | 1 => .char (Char.ofNat first.toNat) 1
  | size + 2 =>
    match rest with
    | [] => .faulty .endOfData 1
    | second :: rest =>
      if mayFollow first second then
        let lead := first.toNat % (if size = 0 then 0x20 else if size = 1 then 0x10 else 0x08)
        readRest 2 (withBits lead second) size rest
      else .faulty .continuationByte 1

/-- Reads all characters, `skip` bytes of the list belonging to the piece before it and `start`
bytes lying before the list. -/
def decodeFrom (skip start : Nat) : List UInt8 → Except Fault (List Char)
  | [] => .ok []
  | byte :: rest =>
    match skip with
    | skip + 1 => decodeFrom skip (start + 1) rest
    | 0 =>
      match piece byte rest with
      | .char c size => (c :: ·) <$> decodeFrom (size - 1) (start + 1) rest
      | .faulty problem size => .error ⟨problem, byte, start, size⟩

def decode (bytes : List UInt8) : Except Fault (List Char) :=
  decodeFrom 0 0 bytes

/-- Reads bytes with a replacement character for each faulty piece, `skip` bytes of the list
belonging to the piece before it. -/
def decodeLossyFrom (skip : Nat) : List UInt8 → List Char
  | [] => []
  | byte :: rest =>
    match skip with
    | skip + 1 => decodeLossyFrom skip rest
    | 0 =>
      match piece byte rest with
      | .char c size => c :: decodeLossyFrom (size - 1) rest
      | .faulty _ size => '\ufffd' :: decodeLossyFrom (size - 1) rest

/-- Reads bytes with a replacement character for each faulty piece. -/
def decodeLossy (bytes : List UInt8) : List Char :=
  decodeLossyFrom 0 bytes

/-! ## Writing -/

/-- A byte that continues a sequence with six bits of a code point. -/
def continuation (bits : Nat) : UInt8 :=
  UInt8.ofNat (0x80 + bits % 0x40)

def encodeChar (c : Char) : List UInt8 :=
  let n := c.toNat
  if n < 0x80 then [UInt8.ofNat n]
  else if n < 0x800 then [UInt8.ofNat (0xC0 + n / 0x40), continuation n]
  else if n < 0x10000 then
    [UInt8.ofNat (0xE0 + n / 0x1000), continuation (n / 0x40), continuation n]
  else
    [UInt8.ofNat (0xF0 + n / 0x40000), continuation (n / 0x1000), continuation (n / 0x40),
      continuation n]

def encode (chars : List Char) : List UInt8 :=
  chars.flatMap encodeChar

example : encode ['é', '😀'] = [0xC3, 0xA9, 0xF0, 0x9F, 0x98, 0x80] := by decide +kernel

example : decode [0xC3, 0xA9, 0x61] = .ok ['é', 'a'] := rfl

example : decode [0x61, 0xE2, 0x82] = .error ⟨.endOfData, 0xE2, 1, 2⟩ := rfl

example : decodeLossy [0xF0, 0x9F, 0x61, 0xFF] = ['\ufffd', 'a', '\ufffd'] := rfl

end QuoteDesk.Text.Utf8
