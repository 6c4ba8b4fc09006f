import QuoteDesk.Proofs.Vault.Aes
import QuoteDesk.Proofs.Vault.Base64
import QuoteDesk.Vault.Cipher

/-!
# Ciphers that keep secrets

A cipher is lawful when it opens what it sealed under the same key, draws whole keys and
writes what can be stored.  The cipher used here is lawful.
-/

namespace QuoteDesk

open Text

/-- A cipher that opens what it sealed under the same key.  Its name has no colon, and
what it writes is ASCII and not empty. -/
structure Cipher.Lawful (cipher : Cipher ρ) : Prop where
  freshKey : ∀ random, (cipher.freshKey random).1.length = keyLength
  strategy : ':' ∉ cipher.strategy.toList
  ascii : ∀ key secret random, ∀ c ∈ (cipher.wrap key secret random).1.toList, c.toNat < 0x80
  nonempty : ∀ key secret random, (cipher.wrap key secret random).1.toList ≠ []
  opens : ∀ {key : List UInt8} (secret : List UInt8) (random : ρ), key.length = keyLength →
    cipher.unwrap key (Utf8.encode (cipher.wrap key secret random).1.toList) = some secret

/-! ## Lengths -/

namespace Sha256

theorem length_bigEndian (count n : Nat) : (bigEndian count n).length = count := by
  rw [bigEndian, List.length_reverse, List.length_map, List.length_range]

theorem length_bytes (state : State) : state.bytes.length = 32 := by
  simp [State.bytes, length_bigEndian]

theorem length_authenticate (key message : List UInt8) : (authenticate key message).length = 32 :=
  length_bytes _

end Sha256

namespace Base64

theorem encode_ne_nil {data : List UInt8} (some : data ≠ []) : encode data ≠ [] := by
  cases data using encode.induct with
  | case1 => exact absurd rfl some
  | case2 a => exact List.cons_ne_nil _ _
  | case3 a b => exact List.cons_ne_nil _ _
  | case4 a b c rest => exact List.cons_ne_nil _ _

theorem utf8_encode (data : List UInt8) : Utf8.encode (encode data) = (encode data).map byteOf :=
  Utf8.encode_of_ascii fun c written => (isWritten_of_mem_encode data c written).visible.2.1

end Base64

/-! ## The cipher used -/

namespace Fernet

/-- What was sealed at a time is opened under the same key. -/
theorem openSealed_sealAt
    {start key : List UInt8} (seconds : Nat) (startSize : start.length = 16)
    (keySize : key.length = Cipher.keyLength) (secret : List UInt8) :
    openSealed key (sealAt seconds start key secret) = some secret := by
  let sealed := Aes.encrypt (encryptionKey key) start secret
  let body := version :: Sha256.bigEndian 8 seconds ++ start ++ sealed
  let code := Sha256.authenticate (signingKey key) body
  have codeSize : code.length = 32 := Sha256.length_authenticate _ _
  have bodySize : (body ++ code).length - 32 = body.length := by
    rw [List.length_append, codeSize, Nat.add_sub_cancel]
  have timeSize : (Sha256.bigEndian 8 seconds).length = 8 := Sha256.length_bigEndian 8 seconds
  have headSize : (version :: Sha256.bigEndian 8 seconds).length = 9 := by
    rw [List.length_cons, timeSize]
  have startFound : (body.drop 9).take 16 = start := by
    have behind : body.drop 9 = start ++ sealed := by
      simp only [body, List.append_assoc]
      exact List.drop_left' headSize
    rw [behind, List.take_left' startSize]
  have sealedFound : body.drop 25 = sealed :=
    List.drop_left' (by rw [List.length_append, headSize, startSize])
  have accepted : ((body ++ code).head? = some version && 9 ≤ (body ++ code).length &&
      code = Sha256.authenticate (signingKey key) body) = true := by
    have long : 9 ≤ (body ++ code).length := by
      simp only [body, List.length_append, List.length_cons, timeSize]
      omega
    have first : (body ++ code).head? = some version := rfl
    simp only [first, long, code, decide_true, Bool.and_true]
  have keyHalf : (encryptionKey key).length = 16 := by
    rw [encryptionKey, List.length_drop, keySize]
    rfl
  change openSealed key (body ++ code) = some secret
  unfold openSealed
  dsimp only
  rw [bodySize, List.take_left, List.drop_left, if_pos accepted, startFound, sealedFound]
  exact Aes.decrypt?_encrypt keyHalf startSize secret

theorem toList_wrap (key secret : List UInt8) (random : Entropy) :
    (cipher.wrap key secret random).1.toList =
      Base64.encode (sealAt random.draw.2.seconds (random.draw.1.take 16) key secret) :=
  String.toList_ofList

/-- What the cipher seals it opens again under the same key. -/
theorem lawful : cipher.Lawful where
  freshKey _ := Sha256.length_authenticate _ _
  strategy := by decide
  ascii key secret random c member := by
    rw [toList_wrap] at member
    exact (Base64.isWritten_of_mem_encode _ c member).visible.2.1
  nonempty key secret random := by
    rw [toList_wrap]
    exact Base64.encode_ne_nil
      (List.append_ne_nil_of_left_ne_nil (List.cons_ne_nil _ _) _)
  opens {key} secret random keySize := by
    have startSize : (random.draw.1.take 16).length = 16 := by
      rw [List.length_take, Entropy.draw, Sha256.length_authenticate]
      rfl
    have read := Base64.decode_encode
      (sealAt random.draw.2.seconds (random.draw.1.take 16) key secret)
    rw [toList_wrap, Base64.utf8_encode]
    change (Base64.decode _).bind (openSealed key) = some secret
    rw [read, Option.bind_some]
    exact openSealed_sealAt random.draw.2.seconds startSize keySize secret

end Fernet

end QuoteDesk
