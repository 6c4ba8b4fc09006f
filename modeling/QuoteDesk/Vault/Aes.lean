/-!
# AES-128

A block of 16 bytes is encrypted in ten rounds under keys derived from one key of 16 bytes. Bytes
are numbers of a field with 256 elements; the substitution of a byte is its inverse, moved by a fixed
map. Longer messages are chained: every block is mixed with the encrypted block before it.
-/

namespace QuoteDesk.Aes

/-! ## The field -/

/-- A byte times the second element of the field. -/
def double (x : UInt8) : UInt8 :=
  if x < 0x80 then x <<< 1 else x <<< 1 ^^^ 0x1B

/-- The product of two bytes, over the bits of the second one from the greatest on. -/
def times (x y : UInt8) : UInt8 :=
  (List.range 8).foldl (fun product place =>
    let doubled := double product
    if (y >>> UInt8.ofNat (7 - place)) &&& 1 = 1 then doubled ^^^ x else doubled) 0

/-- The inverse of a byte; zero has itself. -/
def inverse (x : UInt8) : UInt8 :=
  let x2 := times x x
  let x4 := times x2 x2
  let x8 := times x4 x4
  let x16 := times x8 x8
  let x32 := times x16 x16
  let x64 := times x32 x32
  let x128 := times x64 x64
  [x4, x8, x16, x32, x64, x128].foldl times x2

/-- A byte turned to the left. -/
def turned (x : UInt8) (count : UInt8) : UInt8 :=
  x <<< count ||| x >>> (8 - count)

/-- The byte that a byte is substituted by. -/
def substituted (x : UInt8) : UInt8 :=
  let y := inverse x
  y ^^^ turned y 1 ^^^ turned y 2 ^^^ turned y 3 ^^^ turned y 4 ^^^ 0x63

/-- The byte whose substitute is given. -/
def restored (x : UInt8) : UInt8 :=
  inverse (turned x 1 ^^^ turned x 3 ^^^ turned x 6 ^^^ 0x05)

/-! ## Rounds -/

/-- Two lists of bytes, mixed byte by byte. -/
def mixed (xs ys : List UInt8) : List UInt8 :=
  List.zipWith (· ^^^ ·) xs ys

/-- The bytes of a block in a new order. -/
def arranged (order : List Nat) (block : List UInt8) : List UInt8 :=
  order.map fun place => block.getD place 0

/-- The order in which the rows of a block are moved to the left. -/
def rowsMoved : List Nat := [0, 5, 10, 15, 4, 9, 14, 3, 8, 13, 2, 7, 12, 1, 6, 11]

/-- The order in which the rows of a block are moved back. -/
def rowsRestored : List Nat := [0, 13, 10, 7, 4, 1, 14, 11, 8, 5, 2, 15, 12, 9, 6, 3]

/-- The columns of a block, multiplied by a turning row of factors. -/
def columns (p q r s : UInt8) : List UInt8 → List UInt8
  | a :: b :: c :: d :: rest =>
    (times p a ^^^ times q b ^^^ times r c ^^^ times s d) ::
    (times s a ^^^ times p b ^^^ times q c ^^^ times r d) ::
    (times r a ^^^ times s b ^^^ times p c ^^^ times q d) ::
    (times q a ^^^ times r b ^^^ times s c ^^^ times p d) :: columns p q r s rest
  | _ => []

def nextKey (constant : UInt8) (key : List UInt8) : List UInt8 :=
  let last := arranged [13, 14, 15, 12] key
  let moved := mixed (last.map substituted) [constant, 0, 0, 0]
  let first := mixed (key.take 4) moved
  let second := mixed ((key.drop 4).take 4) first
  let third := mixed ((key.drop 8).take 4) second
  first ++ second ++ third ++ mixed (key.drop 12) third

/-- The keys of a number of rounds after a key. -/
def roundKeys (constant : UInt8) (key : List UInt8) : Nat → List (List UInt8)
  | 0 => []
  | count + 1 =>
    let next := nextKey constant key
    next :: roundKeys (double constant) next count

def keysOf (key : List UInt8) : List (List UInt8) :=
  roundKeys 1 key 10

/-- The rounds of an encryption; the last one leaves the columns alone. -/
def encryptRounds (block : List UInt8) : List (List UInt8) → List UInt8
  | [] => block
  | [last] => mixed (arranged rowsMoved (block.map substituted)) last
  | key :: rest =>
    encryptRounds (mixed (columns 2 3 1 1 (arranged rowsMoved (block.map substituted))) key) rest

def encryptBlock (key block : List UInt8) : List UInt8 :=
  encryptRounds (mixed block key) (keysOf key)

/-- The rounds of a decryption, from the last key to the first one. -/
def decryptRounds (block : List UInt8) : List (List UInt8) → List UInt8
  | [] => block
  | key :: rest =>
    let opened := columns 14 11 13 9 (mixed block key)
    decryptRounds ((arranged rowsRestored opened).map restored) rest

def decryptBlock (key block : List UInt8) : List UInt8 :=
  match (keysOf key).reverse with
  | [] => block
  | last :: rest =>
    let opened := (arranged rowsRestored (mixed block last)).map restored
    mixed (decryptRounds opened rest) key

/-! ## Messages -/

/-- A message filled up to whole blocks with bytes that state how many they are. -/
def filledUp (message : List UInt8) : List UInt8 :=
  let missing := 16 - message.length % 16
  message ++ List.replicate missing (UInt8.ofNat missing)

/-- A message without the bytes that fill it up; nothing where they do not fit. -/
def emptied? (message : List UInt8) : Option (List UInt8) :=
  let missing := (message.getLast?.getD 0).toNat
  if 1 ≤ missing && missing ≤ 16 &&
      (message.drop (message.length - missing)).all (· == UInt8.ofNat missing) then
    some (message.take (message.length - missing))
  else none

/-- Encrypts a number of blocks, each mixed with the encrypted block before it. -/
def encryptChain (key before message : List UInt8) : Nat → List UInt8
  | 0 => []
  | count + 1 =>
    let block := encryptBlock key (mixed (message.take 16) before)
    block ++ encryptChain key block (message.drop 16) count

/-- Decrypts a number of chained blocks. -/
def decryptChain (key before message : List UInt8) : Nat → List UInt8
  | 0 => []
  | count + 1 =>
    let block := message.take 16
    mixed (decryptBlock key block) before ++ decryptChain key block (message.drop 16) count

def encrypt (key start message : List UInt8) : List UInt8 :=
  let filled := filledUp message
  encryptChain key start filled (filled.length / 16)

/-- Decrypts a message; nothing where it does not consist of whole blocks, filled up as it has to
be. -/
def decrypt? (key start message : List UInt8) : Option (List UInt8) :=
  if message.isEmpty || message.length % 16 ≠ 0 then none
  else emptied? (decryptChain key start message (message.length / 16))

end QuoteDesk.Aes
