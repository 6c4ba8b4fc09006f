import QuoteDesk.File.Storage
import QuoteDesk.Value
import QuoteDesk.Vault.Cipher

/-!
# The vault

The vault seals secrets under a key that lies in a file of its own. A key that is not there yet is
made when it is first needed, also for opening a secret. A stored secret has the name of the cipher
in front of it.
-/

namespace QuoteDesk

open Number Text

/-- A vault: where its key lies. -/
structure Vault where
  keyPath : Path
deriving DecidableEq, Repr

namespace Vault

def refuseKey : Fault :=
  .badValue "Fernet key must be 32 url-safe base64-encoded bytes."

def refuseToken : Fault :=
  .badValue "Invalid Fernet token"

def isBlankByte (byte : UInt8) : Bool :=
  byte == 0x20 || (0x09 ≤ byte && byte ≤ 0x0D)

def trimBytes (data : List UInt8) : List UInt8 :=
  ((data.dropWhile isBlankByte).reverse.dropWhile isBlankByte).reverse

def readKey (data : List UInt8) : Except Fault (List UInt8) :=
  match Base64.decode (trimBytes data) with
  | some key => if key.length = Cipher.keyLength then .ok key else .error refuseKey
  | none => .error refuseKey

def keyText (key : List UInt8) : List UInt8 :=
  Utf8.encode (Base64.encode key)

/-- The text in the key file, which is made where there is none. -/
def loadKeyText (cipher : Cipher ρ) (vault : Vault) : StorageM ρ (List UInt8) := do
  Storage.change fun files => files.makeDirectories vault.keyPath.parent
  if (← get).files.contains vault.keyPath then
    Storage.look fun files => (files.read vault.keyPath).mapError .file
  else
    let key ← Storage.draw cipher.freshKey
    Storage.replaceFile vault.keyPath (keyText key)
    return keyText key

def loadKey (cipher : Cipher ρ) (vault : Vault) : StorageM ρ (List UInt8) := do
  Storage.settle (readKey (← loadKeyText cipher vault))

/-- The fault of a value that is used as a text and is none. -/
def noText (value : Value) (part : String) : Fault :=
  .missingPart s!"'{value.typeName}' object has no attribute '{part}'"

/-- Seals a secret; an absent one stays empty. -/
def encrypt (cipher : Cipher ρ) (vault : Vault) (secret : Value) : StorageM ρ String := do
  if !secret.isTruthy then return ""
  let key ← loadKey cipher vault
  match secret with
  | .text s =>
    let sealed ← Storage.draw (cipher.wrap key (Utf8.encode s.toList))
    return cipher.strategy ++ ":" ++ sealed
  | other => throw (noText other "encode")

/-- The name in front of a stored secret and the rest. A text without a colon, or with nothing
behind it, is taken as a rest. -/
def splitStrategy (strategy : String) (token : String) : String × String :=
  let before := token.toList.takeWhile (· != ':')
  let behind := (token.toList.dropWhile (· != ':')).drop 1
  if behind.isEmpty then (strategy, String.ofList before)
  else (String.ofList before, String.ofList behind)

/-- The bytes of a text that has to be ASCII. -/
def asciiBytes (s : String) : Except Fault (List UInt8) :=
  let chars := s.toList
  let isAscii (c : Char) : Bool := c.toNat < 0x80
  if chars.all isAscii then .ok (chars.map fun c => UInt8.ofNat c.toNat)
  else
    let first := (chars.takeWhile isAscii).length
    let count := ((chars.drop first).takeWhile fun c => !isAscii c).length
    .error (.notAscii chars first (first + count))

def secretText (data : List UInt8) : Except Fault String :=
  match Utf8.decode data with
  | .ok chars => .ok (String.ofList chars)
  | .error fault => .error (.undecodable fault)

/-- Opens a stored secret; an absent one is empty. -/
def decrypt (cipher : Cipher ρ) (vault : Vault) (token : Value) : StorageM ρ String := do
  if !token.isTruthy then return ""
  match token with
  | .text s =>
    let (strategy, payload) := splitStrategy cipher.strategy s
    if strategy ≠ cipher.strategy then
      throw (.badValue ("Unknown secret token prefix " ++ quoted strategy))
    let key ← loadKey cipher vault
    match cipher.unwrap key (← Storage.settle (asciiBytes payload)) with
    | some data => Storage.settle (secretText data)
    | none => throw refuseToken
  | other => throw (noText other "partition")

end Vault

end QuoteDesk
