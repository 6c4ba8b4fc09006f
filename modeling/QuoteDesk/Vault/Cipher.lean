import QuoteDesk.Vault.Aes
import QuoteDesk.Vault.Base64
import QuoteDesk.Vault.Sha256

/-!
# Ciphers

A cipher seals a secret under a key and opens what was sealed under the same key. What a sealed
secret looks like is the cipher's own business. The cipher used here writes a version, the time, a
first block, the encrypted secret and a code that authenticates all of it, in letters of base 64.
-/

namespace QuoteDesk

/-- A cipher; `ρ` is the source of randomness that it draws from. -/
structure Cipher (ρ : Type) where
  /-- The name under which sealed secrets are stored. -/
  strategy : String
  /-- Draws a new key of 32 bytes. -/
  freshKey : ρ → List UInt8 × ρ
  /-- Seals a secret under a key. -/
  wrap : List UInt8 → List UInt8 → ρ → String × ρ
  /-- Opens a sealed secret; nothing where it was not sealed under the key. -/
  unwrap : List UInt8 → List UInt8 → Option (List UInt8)

def Cipher.keyLength : Nat := 32

/-- Randomness spread out of a seed: every draw digests the seed and the number of the draw. Sealed
secrets carry a time in seconds. -/
structure Entropy where
  seed : List UInt8
  draws : Nat
  seconds : Nat

namespace Entropy

def draw (entropy : Entropy) : List UInt8 × Entropy :=
  (Sha256.authenticate (entropy.seed.take 64) (Sha256.bigEndian 8 entropy.draws),
    { entropy with draws := entropy.draws + 1 })

end Entropy

namespace Fernet

/-- The first byte of a sealed secret. -/
def version : UInt8 := 0x80

/-- The half of a key that authenticates. -/
def signingKey (key : List UInt8) : List UInt8 := key.take 16

/-- The half of a key that encrypts. -/
def encryptionKey (key : List UInt8) : List UInt8 := key.drop 16

/-- Seals a secret at a time, with a first block. -/
def sealAt (seconds : Nat) (start key secret : List UInt8) : List UInt8 :=
  let body := version :: Sha256.bigEndian 8 seconds ++ start ++
    Aes.encrypt (encryptionKey key) start secret
  body ++ Sha256.authenticate (signingKey key) body

def openSealed (key token : List UInt8) : Option (List UInt8) :=
  let body := token.take (token.length - 32)
  let code := token.drop (token.length - 32)
  if token.head? = some version && 9 ≤ token.length &&
      code = Sha256.authenticate (signingKey key) body then
    Aes.decrypt? (encryptionKey key) ((body.drop 9).take 16) (body.drop 25)
  else none

def cipher : Cipher Entropy where
  strategy := "fernet"
  freshKey entropy := entropy.draw
  wrap key secret entropy :=
    let (drawn, entropy) := entropy.draw
    (String.ofList (Base64.encode (sealAt entropy.seconds (drawn.take 16) key secret)), entropy)
  unwrap key token := (Base64.decode token).bind (openSealed key)

end Fernet

end QuoteDesk
