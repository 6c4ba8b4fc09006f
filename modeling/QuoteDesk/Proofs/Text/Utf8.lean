import Mathlib.Tactic.SplitIfs
import QuoteDesk.Text.Utf8

/-!
# Characters survive UTF-8

The bytes of a character are one piece that is read as this character, so what was written
is read back.
-/

namespace QuoteDesk.Text.Utf8

/-! ## Bytes -/

theorem toNat_ofNat_of_lt {n : Nat} (small : n < 0x100) : (UInt8.ofNat n).toNat = n := by
  rw [UInt8.toNat_ofNat', Nat.mod_eq_of_lt small]

theorem toNat_continuation (bits : Nat) : (continuation bits).toNat = 0x80 + bits % 0x40 :=
  toNat_ofNat_of_lt (by omega)

theorem isContinuation_iff {byte : UInt8} :
    isContinuation byte = true ↔ 0x80 ≤ byte.toNat ∧ byte.toNat ≤ 0xBF := by
  simp [isContinuation, UInt8.le_iff_toNat_le]

theorem isContinuation_continuation (bits : Nat) : isContinuation (continuation bits) = true := by
  rw [isContinuation_iff, toNat_continuation]
  omega

theorem withBits_continuation (code bits : Nat) :
    withBits code (continuation bits) = code * 0x40 + bits % 0x40 := by
  rw [withBits, toNat_continuation]
  omega

theorem announcedSize_eq (byte : UInt8) :
    announcedSize byte =
      if byte.toNat < 0x80 then 1
      else if byte.toNat < 0xC2 then 0
      else if byte.toNat < 0xE0 then 2
      else if byte.toNat < 0xF0 then 3
      else if byte.toNat < 0xF5 then 4
      else 0 := by
  simp [announcedSize, UInt8.lt_iff_toNat_lt]

theorem mayFollow_continuation
    {first : UInt8} {bits : Nat} (long : first.toNat = 0xE0 → 0x20 ≤ bits % 0x40)
    (noSurrogate : first.toNat = 0xED → bits % 0x40 < 0x20)
    (longer : first.toNat = 0xF0 → 0x10 ≤ bits % 0x40)
    (inRange : first.toNat = 0xF4 → bits % 0x40 < 0x10) :
    mayFollow first (continuation bits) = true := by
  simp only [mayFollow, isContinuation_continuation, Bool.true_and, Bool.and_eq_true,
    Bool.not_eq_true', Bool.and_eq_false_iff, beq_eq_false_iff_ne, decide_eq_false_iff_not,
    UInt8.lt_iff_toNat_lt, UInt8.le_iff_toNat_le, toNat_continuation, ne_eq, ← UInt8.toNat_inj]
  simp only [UInt8.reduceToNat]
  omega

/-! ## Pieces -/

/-- Bytes whose first piece is a character that takes up all of them. -/
def IsPiece (c : Char) (bytes : List UInt8) : Prop :=
  ∃ first owed, bytes = first :: owed ∧
    ∀ more, piece first (owed ++ more) = .char c (owed.length + 1)

theorem isPiece_encodeChar (c : Char) : IsPiece c (encodeChar c) := by
  have same : Char.ofNat c.toNat = c := Char.ofNat_toNat c
  have valid : c.toNat < 0xD800 ∨ 0xDFFF < c.toNat ∧ c.toNat < 0x110000 := c.valid
  unfold encodeChar
  dsimp only
  generalize c.toNat = n at same valid
  split_ifs with one two three
  · refine ⟨_, [], rfl, fun more => ?_⟩
    have first : (UInt8.ofNat n).toNat = n := toNat_ofNat_of_lt (by omega)
    have size : announcedSize (UInt8.ofNat n) = 1 := by
      rw [announcedSize_eq, first, if_pos one]
    rw [piece, size]
    dsimp only
    rw [first, same, List.length_nil]
  · refine ⟨_, [continuation n], rfl, fun more => ?_⟩
    have first : (UInt8.ofNat (0xC0 + n / 0x40)).toNat = 0xC0 + n / 0x40 :=
      toNat_ofNat_of_lt (by omega)
    have size : announcedSize (UInt8.ofNat (0xC0 + n / 0x40)) = 2 := by
      rw [announcedSize_eq, first]
      split_ifs <;> omega
    have follows : mayFollow (UInt8.ofNat (0xC0 + n / 0x40)) (continuation n) = true := by
      apply mayFollow_continuation <;> rw [first] <;> omega
    have code : (0xC0 + n / 0x40) % 0x20 * 0x40 + n % 0x40 = n := by omega
    simp only [piece, size, List.cons_append, List.nil_append, if_pos follows, if_true, first,
      readRest, withBits_continuation, code, same, List.length_singleton]
  · refine ⟨_, [continuation (n / 0x40), continuation n], rfl, fun more => ?_⟩
    have first : (UInt8.ofNat (0xE0 + n / 0x1000)).toNat = 0xE0 + n / 0x1000 :=
      toNat_ofNat_of_lt (by omega)
    have size : announcedSize (UInt8.ofNat (0xE0 + n / 0x1000)) = 3 := by
      rw [announcedSize_eq, first]
      split_ifs <;> omega
    have follows :
        mayFollow (UInt8.ofNat (0xE0 + n / 0x1000)) (continuation (n / 0x40)) = true := by
      apply mayFollow_continuation <;> rw [first] <;> omega
    have code :
        ((0xE0 + n / 0x1000) % 0x10 * 0x40 + n / 0x40 % 0x40) * 0x40 + n % 0x40 = n := by omega
    simp only [piece, size, List.cons_append, List.nil_append, if_pos follows, first, readRest,
      isContinuation_continuation, withBits_continuation, Nat.reduceEqDiff, if_true, if_false,
      code, same, List.length_cons, List.length_nil]
  · refine ⟨_, [continuation (n / 0x1000), continuation (n / 0x40), continuation n], rfl,
      fun more => ?_⟩
    have first : (UInt8.ofNat (0xF0 + n / 0x40000)).toNat = 0xF0 + n / 0x40000 :=
      toNat_ofNat_of_lt (by omega)
    have size : announcedSize (UInt8.ofNat (0xF0 + n / 0x40000)) = 4 := by
      rw [announcedSize_eq, first]
      split_ifs <;> omega
    have follows :
        mayFollow (UInt8.ofNat (0xF0 + n / 0x40000)) (continuation (n / 0x1000)) = true := by
      apply mayFollow_continuation <;> rw [first] <;> omega
    have code :
        (((0xF0 + n / 0x40000) % 0x08 * 0x40 + n / 0x1000 % 0x40) * 0x40 + n / 0x40 % 0x40) *
          0x40 + n % 0x40 = n := by omega
    simp only [piece, size, List.cons_append, List.nil_append, if_pos follows, first, readRest,
      isContinuation_continuation, withBits_continuation, Nat.reduceEqDiff, if_true, if_false,
      code, same, List.length_cons, List.length_nil]

/-! ## Texts -/

theorem decodeFrom_passes (start : Nat) (owed more : List UInt8) :
    decodeFrom owed.length start (owed ++ more) = decodeFrom 0 (start + owed.length) more := by
  induction owed generalizing start with
  | nil => rfl
  | cons byte rest inductionHypothesis =>
      rw [List.length_cons, List.cons_append, decodeFrom, inductionHypothesis]
      congr 1
      omega

theorem decodeFrom_piece
    {c : Char} {bytes : List UInt8} (isPiece : IsPiece c bytes) (start : Nat)
    (more : List UInt8) :
    decodeFrom 0 start (bytes ++ more) =
      (c :: ·) <$> decodeFrom 0 (start + bytes.length) more := by
  obtain ⟨first, owed, rfl, read⟩ := isPiece
  rw [List.cons_append, decodeFrom, read more]
  dsimp only
  rw [Nat.add_sub_cancel, decodeFrom_passes, List.length_cons, Nat.add_assoc, Nat.add_comm 1]

/-- Characters are read back from their bytes. -/
theorem decodeFrom_encode (start : Nat) (chars : List Char) :
    decodeFrom 0 start (encode chars) = .ok chars := by
  induction chars generalizing start with
  | nil => rfl
  | cons c rest inductionHypothesis =>
      have split : encode (c :: rest) = encodeChar c ++ encode rest := List.flatMap_cons
      rw [split, decodeFrom_piece (isPiece_encodeChar c), inductionHypothesis]
      rfl

/-- What was written is read back. -/
theorem decode_encode (chars : List Char) : decode (encode chars) = .ok chars :=
  decodeFrom_encode 0 chars

/-! ## Texts with replacements -/

theorem decodeLossyFrom_passes (owed more : List UInt8) :
    decodeLossyFrom owed.length (owed ++ more) = decodeLossyFrom 0 more := by
  induction owed with
  | nil => rfl
  | cons byte rest inductionHypothesis =>
      rw [List.length_cons, List.cons_append, decodeLossyFrom, inductionHypothesis]

theorem decodeLossyFrom_piece
    {c : Char} {bytes : List UInt8} (isPiece : IsPiece c bytes) (more : List UInt8) :
    decodeLossyFrom 0 (bytes ++ more) = c :: decodeLossyFrom 0 more := by
  obtain ⟨first, owed, rfl, read⟩ := isPiece
  rw [List.cons_append, decodeLossyFrom, read more]
  dsimp only
  rw [Nat.add_sub_cancel, decodeLossyFrom_passes]

/-- Nothing that was written is replaced. -/
theorem decodeLossy_encode (chars : List Char) : decodeLossy (encode chars) = chars := by
  induction chars with
  | nil => rfl
  | cons c rest inductionHypothesis =>
      have split : encode (c :: rest) = encodeChar c ++ encode rest := List.flatMap_cons
      rw [decodeLossy, split, decodeLossyFrom_piece (isPiece_encodeChar c)]
      exact congrArg (c :: ·) inductionHypothesis

/-! ## ASCII -/

theorem encode_of_ascii {chars : List Char} (ascii : ∀ c ∈ chars, c.toNat < 0x80) :
    encode chars = chars.map fun c => UInt8.ofNat c.toNat := by
  induction chars with
  | nil => rfl
  | cons c rest inductionHypothesis =>
      obtain ⟨first, others⟩ := List.forall_mem_cons.mp ascii
      have split : encode (c :: rest) = encodeChar c ++ encode rest := List.flatMap_cons
      rw [split, inductionHypothesis others, encodeChar, if_pos first]
      rfl

end QuoteDesk.Text.Utf8
