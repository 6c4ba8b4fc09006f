import QuoteDesk.Proofs.Text.Utf8
import QuoteDesk.Vault.Base64

/-!
# Bytes survive base 64

Three bytes are the bits of four letters, and the last group keeps its whole bytes.  So
bytes that were written are read back, and nothing but letters and signs that fill up a
group is written.
-/

namespace QuoteDesk.Base64

open Text

/-! ## Letters -/

/-- The byte of an ASCII letter. -/
def byteOf (c : Char) : UInt8 :=
  UInt8.ofNat c.toNat

/-- The bits of a letter are read back. -/
theorem bits?_letter (n : Nat) : bits? (byteOf (letter n)) = some (n % 64) := by
  have all : ∀ m : Fin 64, bits? (byteOf (letter m)) = some m.val := by decide +kernel
  have periodic : letter n = letter (n % 64) := by
    unfold letter
    rw [Nat.mod_mod]
  rw [periodic]
  exact all ⟨n % 64, Nat.mod_lt n (by decide)⟩

/-- What stands in written bytes. -/
def IsWritten (c : Char) : Prop :=
  (∃ n, c = letter n) ∨ c = '='

theorem isWritten_of_mem_encode (data : List UInt8) : ∀ c ∈ encode data, IsWritten c := by
  have isLetter : ∀ n, IsWritten (letter n) := fun n => .inl ⟨n, rfl⟩
  have isSign : IsWritten '=' := .inr rfl
  induction data using encode.induct with
  | case1 => exact List.forall_mem_nil _
  | case2 a => simp [encode, isLetter, isSign]
  | case3 a b => simp [encode, isLetter, isSign]
  | case4 a b c rest inductionHypothesis => simpa [encode, isLetter] using inductionHypothesis

theorem IsWritten.visible {c : Char} (written : IsWritten c) :
    0x20 < c.toNat ∧ c.toNat < 0x80 ∧ c ≠ ':' := by
  rcases written with ⟨n, rfl⟩ | rfl
  · have all : ∀ m : Fin 64, 0x20 < (letter m).toNat ∧ (letter m).toNat < 0x80 ∧
        letter m ≠ ':' := by decide +kernel
    have periodic : letter n = letter (n % 64) := by
      unfold letter
      rw [Nat.mod_mod]
    rw [periodic]
    exact all ⟨n % 64, Nat.mod_lt n (by decide)⟩
  · decide

/-! ## Reading groups -/

section Groups

variable {group : List Nat} {filled : Nat} {rest : List UInt8}

theorem decodeFrom_letter (n : Nat) :
    decodeFrom group filled (byteOf (letter n) :: rest) =
      if (group ++ [n % 64]).length = 4 then
        (wholeBytes (group ++ [n % 64]) ++ ·) <$> decodeFrom [] 0 rest
      else decodeFrom (group ++ [n % 64]) 0 rest := by
  have noSign : byteOf (letter n) ≠ 0x3D := by
    intro sign
    have bits := bits?_letter n
    rw [sign] at bits
    cases bits
  rw [decodeFrom, if_neg noSign, bits?_letter]

theorem ofNat_eq {n : Nat} {byte : UInt8} (same : n % 0x100 = byte.toNat) :
    UInt8.ofNat n = byte := by
  rw [← UInt8.toNat_inj, UInt8.toNat_ofNat', same]

end Groups

/-- What was written is read back. -/
theorem decode_encode (data : List UInt8) : decode ((encode data).map byteOf) = some data := by
  unfold decode
  induction data using encode.induct with
  | case1 => rfl
  | case2 a =>
      have first := a.toNat_lt
      let n := a.toNat * 0x10
      have firstByte : UInt8.ofNat (n / 64 % 64 * 4 + n % 64 / 16) = a := ofNat_eq (by omega)
      have sign : byteOf '=' = 0x3D := rfl
      simp only [encode, List.map_cons, List.map_nil, decodeFrom_letter, sign]
      simp [decodeFrom, wholeBytes, n, firstByte]
  | case3 a b =>
      have first := a.toNat_lt
      have second := b.toNat_lt
      let n := (a.toNat * 0x100 + b.toNat) * 0x4
      have firstByte : UInt8.ofNat (n / 4096 % 64 * 4 + n / 64 % 64 / 16) = a :=
        ofNat_eq (by omega)
      have secondByte : UInt8.ofNat (n / 64 % 64 * 16 + n % 64 / 4) = b := ofNat_eq (by omega)
      have sign : byteOf '=' = 0x3D := rfl
      simp only [encode, List.map_cons, List.map_nil, decodeFrom_letter, sign]
      simp [decodeFrom, wholeBytes, n, firstByte, secondByte]
  | case4 a b c rest inductionHypothesis =>
      have first := a.toNat_lt
      have second := b.toNat_lt
      have third := c.toNat_lt
      let n := (a.toNat * 0x100 + b.toNat) * 0x100 + c.toNat
      have firstByte : UInt8.ofNat (n / 262144 % 64 * 4 + n / 4096 % 64 / 16) = a :=
        ofNat_eq (by omega)
      have secondByte : UInt8.ofNat (n / 4096 % 64 * 16 + n / 64 % 64 / 4) = b :=
        ofNat_eq (by omega)
      have thirdByte : UInt8.ofNat (n / 64 % 64 * 64 + n % 64) = c := ofNat_eq (by omega)
      simp only [encode, List.map_cons, decodeFrom_letter]
      simp [wholeBytes, n, firstByte, secondByte, thirdByte, inductionHypothesis]

end QuoteDesk.Base64
