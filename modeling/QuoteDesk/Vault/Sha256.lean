/-!
# SHA-256

A message is filled up to whole blocks of 64 bytes. Each block is spread over 64 words, which are
mixed one by one into a state of eight words. With a secret key in front of the message, twice, the
digest authenticates it.
-/

namespace QuoteDesk.Sha256

def roundConstants : List UInt32 :=
  [0x428A2F98, 0x71374491, 0xB5C0FBCF, 0xE9B5DBA5, 0x3956C25B, 0x59F111F1, 0x923F82A4, 0xAB1C5ED5,
    0xD807AA98, 0x12835B01, 0x243185BE, 0x550C7DC3, 0x72BE5D74, 0x80DEB1FE, 0x9BDC06A7, 0xC19BF174,
    0xE49B69C1, 0xEFBE4786, 0x0FC19DC6, 0x240CA1CC, 0x2DE92C6F, 0x4A7484AA, 0x5CB0A9DC, 0x76F988DA,
    0x983E5152, 0xA831C66D, 0xB00327C8, 0xBF597FC7, 0xC6E00BF3, 0xD5A79147, 0x06CA6351, 0x14292967,
    0x27B70A85, 0x2E1B2138, 0x4D2C6DFC, 0x53380D13, 0x650A7354, 0x766A0ABB, 0x81C2C92E, 0x92722C85,
    0xA2BFE8A1, 0xA81A664B, 0xC24B8B70, 0xC76C51A3, 0xD192E819, 0xD6990624, 0xF40E3585, 0x106AA070,
    0x19A4C116, 0x1E376C08, 0x2748774C, 0x34B0BCB5, 0x391C0CB3, 0x4ED8AA4A, 0x5B9CCA4F, 0x682E6FF3,
    0x748F82EE, 0x78A5636F, 0x84C87814, 0x8CC70208, 0x90BEFFFA, 0xA4506CEB, 0xBEF9A3F7, 0xC67178F2]

/-- Eight words. -/
structure State where
  a : UInt32
  b : UInt32
  c : UInt32
  d : UInt32
  e : UInt32
  f : UInt32
  g : UInt32
  h : UInt32
deriving DecidableEq, Repr

def State.initial : State :=
  ⟨0x6A09E667, 0xBB67AE85, 0x3C6EF372, 0xA54FF53A, 0x510E527F, 0x9B05688C, 0x1F83D9AB, 0x5BE0CD19⟩

/-- A word turned to the right. -/
def turned (x : UInt32) (count : UInt32) : UInt32 :=
  x >>> count ||| x <<< (32 - count)

/-- One round with a constant and a word of the message. -/
def State.round (s : State) (constant word : UInt32) : State :=
  let mixedE := turned s.e 6 ^^^ turned s.e 11 ^^^ turned s.e 25
  let chosen := (s.e &&& s.f) ^^^ (~~~s.e &&& s.g)
  let first := s.h + mixedE + chosen + constant + word
  let mixedA := turned s.a 2 ^^^ turned s.a 13 ^^^ turned s.a 22
  let majority := (s.a &&& s.b) ^^^ (s.a &&& s.c) ^^^ (s.b &&& s.c)
  ⟨first + (mixedA + majority), s.a, s.b, s.c, s.d + first, s.e, s.f, s.g⟩

def State.add (s t : State) : State :=
  ⟨s.a + t.a, s.b + t.b, s.c + t.c, s.d + t.d, s.e + t.e, s.f + t.f, s.g + t.g, s.h + t.h⟩

/-- The bytes of a number, the greatest first. -/
def bigEndian (count n : Nat) : List UInt8 :=
  ((List.range count).map fun place => UInt8.ofNat (n / Nat.pow 256 place)).reverse

def State.bytes (s : State) : List UInt8 :=
  [s.a, s.b, s.c, s.d, s.e, s.f, s.g, s.h].flatMap fun word => bigEndian 4 word.toNat

/-- The words of bytes, four bytes each. -/
def words : List UInt8 → List UInt32
  | a :: b :: c :: d :: rest =>
    UInt32.ofNat (((a.toNat * 256 + b.toNat) * 256 + c.toNat) * 256 + d.toNat) :: words rest
  | _ => []

def nextWord (window : List UInt32) : UInt32 :=
  let x := window.getD 1 0
  let y := window.getD 14 0
  window.getD 0 0 + (turned x 7 ^^^ turned x 18 ^^^ x >>> 3) + window.getD 9 0 +
    (turned y 17 ^^^ turned y 19 ^^^ y >>> 10)

/-- The words of the message, one for each round, from the sixteen words that come next. -/
def schedule (window : List UInt32) : Nat → List UInt32
  | 0 => []
  | count + 1 => window.getD 0 0 :: schedule (window.drop 1 ++ [nextWord window]) count

/-- Mixes a block into a state. -/
def State.absorb (s : State) (block : List UInt8) : State :=
  let mixed := (roundConstants.zip (schedule (words block) 64)).foldl
    (fun state (constant, word) => state.round constant word) s
  s.add mixed

/-- Mixes a number of blocks into a state. -/
def State.absorbAll (s : State) (message : List UInt8) : Nat → State
  | 0 => s
  | count + 1 => (s.absorb (message.take 64)).absorbAll (message.drop 64) count

/-- A message filled up to whole blocks: a single bit, zeros and the number of bits. -/
def filledUp (message : List UInt8) : List UInt8 :=
  let zeros := (119 - message.length % 64) % 64
  message ++ 0x80 :: List.replicate zeros 0 ++ bigEndian 8 (8 * message.length)

/-- The digest of a message: 32 bytes. -/
def digest (message : List UInt8) : List UInt8 :=
  let filled := filledUp message
  (State.initial.absorbAll filled (filled.length / 64)).bytes

/-- A key of at most 64 bytes, filled up with zeros, with every byte changed by a pattern. -/
def paddedKey (key : List UInt8) (pattern : UInt8) : List UInt8 :=
  (key ++ List.replicate (64 - key.length) 0).map fun byte => byte ^^^ pattern

/-- The code that authenticates a message under a key of at most 64 bytes. -/
def authenticate (key message : List UInt8) : List UInt8 :=
  digest (paddedKey key 0x5C ++ digest (paddedKey key 0x36 ++ message))

end QuoteDesk.Sha256
