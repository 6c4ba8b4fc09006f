import Mathlib.Algebra.Group.Nat.Defs
import Mathlib.Logic.Basic
import QuoteDesk.Vault.Aes

/-!
# What is encrypted can be decrypted

Every step of a round can be undone: keys cancel, rows are moved back, substitutes are
restored, and the columns are multiplied by the inverse factors.  So a block is decrypted
from its rounds in reverse, and a chained message block by block.
-/

namespace QuoteDesk.Aes

/-! ## Substitution -/

/-- The double of a byte as a number. -/
def doubledNat (n : Nat) : Nat :=
  Nat.xor (2 * n) (0x11B * (n / 128))

/-- One step of a product as a number: its double, with or without the first factor. -/
def stepNat (x bit product : Nat) : Nat :=
  Nat.xor (doubledNat product) (x * bit)

/-- The product of two bytes as numbers, which the kernel works out fast. -/
def timesNat (x y : Nat) : Nat :=
  stepNat x (y / 1 % 2) (stepNat x (y / 2 % 2) (stepNat x (y / 4 % 2) (stepNat x (y / 8 % 2)
    (stepNat x (y / 16 % 2) (stepNat x (y / 32 % 2) (stepNat x (y / 64 % 2)
      (stepNat x (y / 128 % 2) 0)))))))

def inverseNat (x : Nat) : Nat :=
  let x2 := timesNat x x
  let x4 := timesNat x2 x2
  let x8 := timesNat x4 x4
  let x16 := timesNat x8 x8
  let x32 := timesNat x16 x16
  let x64 := timesNat x32 x32
  let x128 := timesNat x64 x64
  [x4, x8, x16, x32, x64, x128].foldl timesNat x2

theorem toNat_double (x : UInt8) : (double x).toNat = doubledNat x.toNat := by
  have all : ∀ n : Fin 256, (double (UInt8.ofNat n)).toNat = doubledNat n := by decide +kernel
  have given := all ⟨x.toNat, x.toNat_lt⟩
  rwa [UInt8.ofNat_toNat] at given

/-- A factor where the bit at a place of another one is set. -/
def masked (x y : UInt8) (place : Nat) : UInt8 :=
  if (y >>> UInt8.ofNat (7 - place)) &&& 1 = 1 then x else 0

theorem times_eq (x y : UInt8) :
    times x y =
      (List.range 8).foldl (fun product place => double product ^^^ masked x y place) 0 := by
  unfold times masked
  congr 1
  funext product place
  dsimp only
  split
  · rfl
  · exact UInt8.xor_zero.symm

theorem toNat_masked (x y : UInt8) (place : Nat) :
    (masked x y place).toNat =
      x.toNat * (y.toNat / 2 ^ ((UInt8.ofNat (7 - place)).toNat % 8) % 2) := by
  have bit : (y >>> UInt8.ofNat (7 - place)) &&& 1 = 1 ↔
      y.toNat / 2 ^ ((UInt8.ofNat (7 - place)).toNat % 8) % 2 = 1 := by
    rw [← UInt8.toNat_inj, UInt8.toNat_and, UInt8.toNat_shiftRight, UInt8.toNat_one,
      Nat.and_one_is_mod, Nat.shiftRight_eq_div_pow]
  unfold masked
  by_cases set : (y >>> UInt8.ofNat (7 - place)) &&& 1 = 1
  · rw [if_pos set, bit.mp set, Nat.mul_one]
  · have unset := (Nat.mod_two_eq_zero_or_one _).resolve_right fun one => set (bit.mpr one)
    rw [if_neg set, unset]
    rfl

theorem toNat_step (x y product : UInt8) (place : Nat) :
    (double product ^^^ masked x y place).toNat =
      stepNat x.toNat (y.toNat / 2 ^ ((UInt8.ofNat (7 - place)).toNat % 8) % 2)
        product.toNat := by
  rw [UInt8.toNat_xor, toNat_double, toNat_masked]
  rfl

theorem toNat_times (x y : UInt8) : (times x y).toNat = timesNat x.toNat y.toNat := by
  have places : List.range 8 = [0, 1, 2, 3, 4, 5, 6, 7] := rfl
  simp only [times_eq, places, List.foldl_cons, List.foldl_nil, toNat_step]
  rfl

theorem toNat_inverse (x : UInt8) : (inverse x).toNat = inverseNat x.toNat := by
  simp only [inverse, inverseNat, List.foldl_cons, List.foldl_nil, toNat_times]

/-- The inverse of the inverse is the byte itself. -/
theorem inverse_inverse (x : UInt8) : inverse (inverse x) = x := by
  have all : ∀ n < 256, inverseNat (inverseNat n) = n := by
    have checked : (List.range 256).all (fun n => inverseNat (inverseNat n) == n) = true := by
      decide +kernel
    intro n small
    exact eq_of_beq (List.all_eq_true.mp checked n (List.mem_range.mpr small))
  rw [← UInt8.toNat_inj, toNat_inverse, toNat_inverse, all _ x.toNat_lt]

/-- Restoring a substitute gives the byte back. -/
theorem restored_substituted (x : UInt8) : restored (substituted x) = x := by
  -- Apart from the inverses, a byte is moved and moved back.
  have moved : ∀ y : UInt8,
      let z := y ^^^ turned y 1 ^^^ turned y 2 ^^^ turned y 3 ^^^ turned y 4 ^^^ 0x63
      turned z 1 ^^^ turned z 3 ^^^ turned z 6 ^^^ 0x05 = y := by
    have all : ∀ n : Fin 256,
        let y := UInt8.ofNat n
        let z := y ^^^ turned y 1 ^^^ turned y 2 ^^^ turned y 3 ^^^ turned y 4 ^^^ 0x63
        turned z 1 ^^^ turned z 3 ^^^ turned z 6 ^^^ 0x05 = y := by decide +kernel
    intro y
    have given := all ⟨y.toNat, y.toNat_lt⟩
    rwa [UInt8.ofNat_toNat] at given
  exact (congrArg inverse (moved (inverse x))).trans (inverse_inverse x)

/-! ## Products -/

/-- A map of bytes that respects their mixing. -/
def Additive (f : UInt8 → UInt8) : Prop :=
  ∀ x y, f (x ^^^ y) = f x ^^^ f y

/-- The part of a doubled byte that falls out at the top and is mixed in again. -/
def carried (x : UInt8) : UInt8 :=
  if x < 0x80 then 0 else 0x1B

theorem additive_carried : Additive carried := by
  have isSmall : ∀ x : UInt8, x < 0x80 ↔ x.toBitVec.msb = false := by
    intro x
    rw [BitVec.msb_eq_decide, UInt8.lt_iff_toNat_lt]
    simp
  intro x y
  unfold carried
  simp only [isSmall, UInt8.toBitVec_xor, BitVec.msb_xor]
  cases x.toBitVec.msb <;> cases y.toBitVec.msb <;> rfl

theorem double_eq (x : UInt8) : double x = x <<< 1 ^^^ carried x := by
  unfold double carried
  split
  · exact UInt8.xor_zero.symm
  · rfl

theorem additive_shift : Additive fun x => x <<< 1 := by
  intro x y
  simp [← UInt8.toBitVec_inj, BitVec.shiftLeft_xor_distrib]

theorem Additive.xor {f g : UInt8 → UInt8} (first : Additive f) (second : Additive g) :
    Additive fun x => f x ^^^ g x := by
  intro x y
  simp only [first x y, second x y]
  ac_rfl

theorem Additive.comp {f g : UInt8 → UInt8} (outer : Additive f) (inner : Additive g) :
    Additive fun x => f (g x) := by
  intro x y
  dsimp only
  rw [inner, outer]

theorem additive_double : Additive double := by
  have split : double = fun x : UInt8 => x <<< 1 ^^^ carried x := funext double_eq
  rw [split]
  exact additive_shift.xor additive_carried

theorem masked_xor (p x y : UInt8) (place : Nat) :
    masked p (x ^^^ y) place = masked p x place ^^^ masked p y place := by
  have bits : ((x ^^^ y) >>> UInt8.ofNat (7 - place)) &&& 1 = 1 ↔
      ¬ ((x >>> UInt8.ofNat (7 - place)) &&& 1 = 1 ↔
        (y >>> UInt8.ofNat (7 - place)) &&& 1 = 1) := by
    simp only [← UInt8.toNat_inj, UInt8.toNat_and, UInt8.toNat_shiftRight, UInt8.toNat_xor,
      UInt8.toNat_one, Nat.and_one_is_mod, Nat.shiftRight_xor_distrib, Nat.xor_mod_two_eq_one]
  unfold masked
  simp only [bits]
  by_cases first : (x >>> UInt8.ofNat (7 - place)) &&& 1 = 1 <;>
    by_cases second : (y >>> UInt8.ofNat (7 - place)) &&& 1 = 1 <;> simp [first, second]

theorem additive_times (p : UInt8) : Additive (times p) := by
  intro x y
  have mixes : ∀ (places : List Nat) (first second : UInt8),
      places.foldl (fun product place => double product ^^^ masked p (x ^^^ y) place)
          (first ^^^ second) =
        places.foldl (fun product place => double product ^^^ masked p x place) first ^^^
          places.foldl (fun product place => double product ^^^ masked p y place) second := by
    intro places
    induction places with
    | nil => exact fun _ _ => rfl
    | cons place rest inductionHypothesis =>
        intro first second
        simp only [List.foldl_cons]
        rw [← inductionHypothesis, additive_double first second, masked_xor]
        congr 1
        ac_rfl
  simp only [times_eq]
  exact mixes (List.range 8) 0 0

theorem Additive.zero {f : UInt8 → UInt8} (additive : Additive f) : f 0 = 0 := by
  have doubled := additive 0 0
  rwa [UInt8.xor_self, UInt8.xor_self] at doubled

/-- The bytes with one bit. -/
def basis : List UInt8 := [1, 2, 4, 8, 16, 32, 64, 128]

/-- Additive maps that agree on the bytes with one bit are the same. -/
theorem Additive.ext
    {f g : UInt8 → UInt8} (first : Additive f) (second : Additive g)
    (agree : ∀ bit ∈ basis, f bit = g bit) (x : UInt8) : f x = g x := by
  have parts : (basis.map (x &&& ·)).foldr (· ^^^ ·) 0 = x ∧
      ∀ bit ∈ basis, x &&& bit = 0 ∨ x &&& bit = bit := by
    have all : ∀ n : Fin 256,
        (basis.map (UInt8.ofNat n &&& ·)).foldr (· ^^^ ·) 0 = UInt8.ofNat n ∧
          ∀ bit ∈ basis, UInt8.ofNat n &&& bit = 0 ∨ UInt8.ofNat n &&& bit = bit := by
      decide +kernel
    have given := all ⟨x.toNat, x.toNat_lt⟩
    rwa [UInt8.ofNat_toNat] at given
  have agreeing : ∀ bits : List UInt8, (∀ bit ∈ bits, f bit = g bit) →
      f (bits.foldr (· ^^^ ·) 0) = g (bits.foldr (· ^^^ ·) 0) := by
    intro bits same
    induction bits with
    | nil => exact first.zero.trans second.zero.symm
    | cons bit rest inductionHypothesis =>
        obtain ⟨here, later⟩ := List.forall_mem_cons.mp same
        rw [List.foldr_cons, first, second, here, inductionHypothesis later]
  rw [← parts.1]
  apply agreeing
  intro part member
  obtain ⟨bit, among, rfl⟩ := List.mem_map.mp member
  rcases parts.2 bit among with none | whole
  · rw [none]
    exact first.zero.trans second.zero.symm
  · rw [whole]
    exact agree bit among

theorem times_xor (p x y : UInt8) : times p (x ^^^ y) = times p x ^^^ times p y :=
  additive_times p x y

/-! ## Columns -/

/-- The inverse factors, each applied to another multiple of a byte. -/
def multiples (p q r s x : UInt8) : UInt8 :=
  times 14 (times p x) ^^^ times 11 (times q x) ^^^ times 13 (times r x) ^^^ times 9 (times s x)

theorem additive_multiples (p q r s : UInt8) : Additive (multiples p q r s) :=
  ((((additive_times 14).comp (additive_times p)).xor
    ((additive_times 11).comp (additive_times q))).xor
    ((additive_times 13).comp (additive_times r))).xor
    ((additive_times 9).comp (additive_times s))

theorem multiples_own (x : UInt8) : multiples 2 1 1 3 x = x :=
  (additive_multiples 2 1 1 3).ext (g := fun x => x) (fun _ _ => rfl) (by decide +kernel) x

theorem additive_none : Additive fun _ => 0 :=
  fun _ _ => UInt8.xor_self.symm

theorem multiples_other (x : UInt8) :
    multiples 3 2 1 1 x = 0 ∧ multiples 1 3 2 1 x = 0 ∧ multiples 1 1 3 2 x = 0 :=
  ⟨(additive_multiples 3 2 1 1).ext additive_none (by decide +kernel) x,
    (additive_multiples 1 3 2 1).ext additive_none (by decide +kernel) x,
    (additive_multiples 1 1 3 2).ext additive_none (by decide +kernel) x⟩

/-- The inverse factors give back the first byte of a column. -/
theorem unmixed (a b c d : UInt8) :
    times 14 (times 2 a ^^^ times 3 b ^^^ times 1 c ^^^ times 1 d) ^^^
      times 11 (times 1 a ^^^ times 2 b ^^^ times 3 c ^^^ times 1 d) ^^^
      times 13 (times 1 a ^^^ times 1 b ^^^ times 2 c ^^^ times 3 d) ^^^
      times 9 (times 3 a ^^^ times 1 b ^^^ times 1 c ^^^ times 2 d) = a := by
  obtain ⟨second, -, -⟩ := multiples_other b
  obtain ⟨-, third, -⟩ := multiples_other c
  obtain ⟨-, -, fourth⟩ := multiples_other d
  calc _ = multiples 2 1 1 3 a ^^^ multiples 3 2 1 1 b ^^^ multiples 1 3 2 1 c ^^^
        multiples 1 1 3 2 d := by
        simp only [times_xor, multiples]
        ac_rfl
    _ = a ^^^ 0 ^^^ 0 ^^^ 0 := by rw [multiples_own, second, third, fourth]
    _ = a := by simp only [UInt8.xor_zero]

/-- The two matrices of column factors are inverse to each other. -/
theorem columns_columns
    {block : List UInt8} (count : Nat) (size : block.length = 4 * count) :
    columns 14 11 13 9 (columns 2 3 1 1 block) = block := by
  induction count generalizing block with
  | zero =>
      rw [List.length_eq_zero_iff.mp size]
      rfl
  | succ count inductionHypothesis =>
      match block, size with
      | a :: b :: c :: d :: rest, size =>
        have restSize : rest.length = 4 * count := by
          simp only [List.length_cons] at size
          omega
        simp only [columns, inductionHypothesis restSize]
        -- The other bytes of a column stand first in the column turned.
        refine congrArg₂ List.cons (unmixed a b c d) (congrArg₂ List.cons ?_
          (congrArg₂ List.cons ?_ (congrArg₂ List.cons ?_ rfl)))
        · refine Eq.trans ?_ (unmixed b c d a)
          simp only [times_xor]
          ac_rfl
        · refine Eq.trans ?_ (unmixed c d a b)
          simp only [times_xor]
          ac_rfl
        · refine Eq.trans ?_ (unmixed d a b c)
          simp only [times_xor]
          ac_rfl

theorem length_columns
    (p q r s : UInt8) {block : List UInt8} (count : Nat) (size : block.length = 4 * count) :
    (columns p q r s block).length = 4 * count := by
  induction count generalizing block with
  | zero =>
      rw [List.length_eq_zero_iff.mp size]
      rfl
  | succ count inductionHypothesis =>
      match block, size with
      | a :: b :: c :: d :: rest, size =>
        have restSize : rest.length = 4 * count := by
          simp only [List.length_cons] at size
          omega
        simp only [columns, List.length_cons, inductionHypothesis restSize]
        omega

/-! ## Rounds -/

theorem length_mixed {xs ys : List UInt8} (size : xs.length = ys.length) :
    (mixed xs ys).length = xs.length := by
  rw [mixed, List.length_zipWith, size, Nat.min_self]

/-- A key that is mixed in twice cancels. -/
theorem mixed_mixed {xs ys : List UInt8} (size : xs.length = ys.length) :
    mixed (mixed xs ys) ys = xs := by
  induction xs generalizing ys with
  | nil => rfl
  | cons x rest inductionHypothesis =>
      cases ys with
      | nil => cases size
      | cons y others =>
          have tail : mixed (mixed rest others) others = rest :=
            inductionHypothesis (Nat.succ.inj size)
          have head : x ^^^ y ^^^ y = x := by
            rw [UInt8.xor_assoc, UInt8.xor_self, UInt8.xor_zero]
          exact congrArg₂ List.cons head tail

theorem length_rowsMoved (block : List UInt8) : (arranged rowsMoved block).length = 16 :=
  List.length_map _

theorem rows_rows {block : List UInt8} (size : block.length = 16) :
    arranged rowsRestored (arranged rowsMoved block) = block := by
  have places : arranged rowsRestored (arranged rowsMoved block) =
      (List.range 16).map fun place => block.getD place 0 := rfl
  rw [places, ← size]
  apply List.ext_getElem
  · simp
  · intro place _ inside
    simp [inside]

/-- One round that is not the last. -/
def rounded (block key : List UInt8) : List UInt8 :=
  mixed (columns 2 3 1 1 (arranged rowsMoved (block.map substituted))) key

def unrounded (block key : List UInt8) : List UInt8 :=
  (arranged rowsRestored (columns 14 11 13 9 (mixed block key))).map restored

theorem map_restored (block : List UInt8) : (block.map substituted).map restored = block := by
  induction block with
  | nil => rfl
  | cons x rest inductionHypothesis =>
      rw [List.map_cons, List.map_cons, restored_substituted, inductionHypothesis]

section Rounds

variable {block key : List UInt8}

theorem length_moved (block : List UInt8) :
    (columns 2 3 1 1 (arranged rowsMoved (block.map substituted))).length = 16 :=
  length_columns 2 3 1 1 4 (length_rowsMoved _)

theorem length_rounded (keySize : key.length = 16) : (rounded block key).length = 16 := by
  rw [rounded, length_mixed ((length_moved block).trans keySize.symm), length_moved]

theorem unrounded_rounded (size : block.length = 16) (keySize : key.length = 16) :
    unrounded (rounded block key) key = block := by
  have substitutes : (block.map substituted).length = 16 := (List.length_map _).trans size
  have unmixed := mixed_mixed ((length_moved block).trans keySize.symm)
  have columned := columns_columns 4 (length_rowsMoved (block.map substituted))
  calc unrounded (rounded block key) key
      = (arranged rowsRestored (columns 14 11 13 9
          (columns 2 3 1 1 (arranged rowsMoved (block.map substituted))))).map restored :=
        congrArg (fun mixture => (arranged rowsRestored (columns 14 11 13 9 mixture)).map restored)
          unmixed
    _ = (arranged rowsRestored (arranged rowsMoved (block.map substituted))).map restored := by
        rw [columned]
    _ = block := by rw [rows_rows substitutes, map_restored]

theorem decryptRounds_eq (block : List UInt8) (keys : List (List UInt8)) :
    decryptRounds block keys = keys.foldl unrounded block := by
  induction keys generalizing block with
  | nil => rfl
  | cons key rest inductionHypothesis => exact inductionHypothesis (unrounded block key)

theorem encryptRounds_append (block : List UInt8) (keys : List (List UInt8)) (last : List UInt8) :
    encryptRounds block (keys ++ [last]) =
      mixed (arranged rowsMoved ((keys.foldl rounded block).map substituted)) last := by
  induction keys generalizing block with
  | nil => rfl
  | cons key rest inductionHypothesis =>
      have more : rest ++ [last] ≠ [] := List.append_ne_nil_of_right_ne_nil _ (List.cons_ne_nil _ _)
      rw [List.cons_append, encryptRounds]
      · exact inductionHypothesis (rounded block key)
      · exact more

/-- The rounds are undone from the last key to the first. -/
theorem foldl_unrounded
    {keys : List (List UInt8)} (keySizes : ∀ key ∈ keys, key.length = 16)
    (size : block.length = 16) :
    keys.reverse.foldl unrounded (keys.foldl rounded block) = block := by
  induction keys generalizing block with
  | nil => rfl
  | cons key rest inductionHypothesis =>
      obtain ⟨keySize, restSizes⟩ := List.forall_mem_cons.mp keySizes
      rw [List.foldl_cons, List.reverse_cons, List.foldl_append,
        inductionHypothesis restSizes (length_rounded keySize)]
      exact unrounded_rounded size keySize

theorem length_foldl_rounded
    {keys : List (List UInt8)} (keySizes : ∀ key ∈ keys, key.length = 16)
    (size : block.length = 16) : (keys.foldl rounded block).length = 16 := by
  induction keys generalizing block with
  | nil => exact size
  | cons key rest inductionHypothesis =>
      obtain ⟨keySize, restSizes⟩ := List.forall_mem_cons.mp keySizes
      exact inductionHypothesis restSizes (length_rounded keySize)

/-! ## Blocks -/

theorem length_nextKey (constant : UInt8) (size : key.length = 16) :
    (nextKey constant key).length = 16 := by
  simp [nextKey, mixed, arranged, size]

theorem length_of_mem_roundKeys
    (size : key.length = 16) (constant : UInt8) (count : Nat) :
    ∀ round ∈ roundKeys constant key count, round.length = 16 := by
  induction count generalizing constant key with
  | zero => exact List.forall_mem_nil _
  | succ count inductionHypothesis =>
      exact List.forall_mem_cons.mpr
        ⟨length_nextKey constant size, inductionHypothesis (length_nextKey constant size) _⟩

theorem exists_keysOf (size : key.length = 16) :
    ∃ keys last, keysOf key = keys ++ [last] ∧ (∀ round ∈ keys, round.length = 16) ∧
      last.length = 16 := by
  have sizes := length_of_mem_roundKeys size 1 10
  rcases List.eq_nil_or_concat (keysOf key) with none | ⟨keys, last, split⟩
  · cases none
  · rw [List.concat_eq_append] at split
    rw [← keysOf, split] at sizes
    refine ⟨keys, last, split, fun round member => ?_, ?_⟩
    · exact sizes round (List.mem_append_left _ member)
    · exact sizes last (List.mem_append_right _ List.mem_cons_self)

theorem length_encryptBlock (size : key.length = 16) (block : List UInt8) :
    (encryptBlock key block).length = 16 := by
  obtain ⟨keys, last, split, -, lastSize⟩ := exists_keysOf size
  rw [encryptBlock, split, encryptRounds_append, length_mixed ((length_rowsMoved _).trans lastSize.symm),
    length_rowsMoved]

/-- A block that was encrypted is decrypted. -/
theorem decryptBlock_encryptBlock (keySize : key.length = 16) (size : block.length = 16) :
    decryptBlock key (encryptBlock key block) = block := by
  obtain ⟨keys, last, split, sizes, lastSize⟩ := exists_keysOf keySize
  have mixedSize : (mixed block key).length = 16 := by
    rw [length_mixed (size.trans keySize.symm), size]
  have substitutes : ((keys.foldl rounded (mixed block key)).map substituted).length = 16 :=
    (List.length_map _).trans (length_foldl_rounded sizes mixedSize)
  rw [decryptBlock, split, List.reverse_append]
  simp only [List.reverse_cons, List.reverse_nil, List.nil_append, List.cons_append]
  rw [encryptBlock, split, encryptRounds_append,
    mixed_mixed ((length_rowsMoved _).trans lastSize.symm), rows_rows substitutes, map_restored,
    decryptRounds_eq, foldl_unrounded sizes mixedSize,
    mixed_mixed (size.trans keySize.symm)]

end Rounds

/-! ## Messages -/

section Chains

variable {key before message : List UInt8}

theorem length_encryptChain (keySize : key.length = 16) (before message : List UInt8) (count : Nat) :
    (encryptChain key before message count).length = 16 * count := by
  induction count generalizing before message with
  | zero => rfl
  | succ count inductionHypothesis =>
      rw [encryptChain, List.length_append, length_encryptBlock keySize, inductionHypothesis]
      omega

/-- Blocks that were chained are decrypted one by one. -/
theorem decryptChain_encryptChain
    {count : Nat} (keySize : key.length = 16) (beforeSize : before.length = 16)
    (size : message.length = 16 * count) :
    decryptChain key before (encryptChain key before message count) count = message := by
  induction count generalizing before message with
  | zero =>
      rw [List.length_eq_zero_iff.mp size]
      rfl
  | succ count inductionHypothesis =>
      have firstSize : (message.take 16).length = 16 := by
        rw [List.length_take]
        omega
      have restSize : (message.drop 16).length = 16 * count := by
        rw [List.length_drop]
        omega
      have mixedSize : (mixed (message.take 16) before).length = 16 := by
        rw [length_mixed (firstSize.trans beforeSize.symm), firstSize]
      have blockSize := length_encryptBlock keySize (mixed (message.take 16) before)
      rw [encryptChain, decryptChain, List.take_left' blockSize, List.drop_left' blockSize,
        decryptBlock_encryptBlock keySize mixedSize,
        mixed_mixed (firstSize.trans beforeSize.symm), inductionHypothesis blockSize restSize,
        List.take_append_drop]

theorem length_filledUp (message : List UInt8) :
    ∃ count, (filledUp message).length = 16 * (count + 1) := by
  refine ⟨message.length / 16, ?_⟩
  rw [filledUp, List.length_append, List.length_replicate]
  omega

/-- What fills a message up is found and taken away. -/
theorem emptied?_filledUp (message : List UInt8) : emptied? (filledUp message) = some message := by
  unfold filledUp
  dsimp only
  generalize given : 16 - message.length % 16 = missing
  have least : 1 ≤ missing := by omega
  have most : missing ≤ 16 := by omega
  have last : (message ++ List.replicate missing (UInt8.ofNat missing)).getLast?.getD 0 =
      UInt8.ofNat missing := by
    rw [List.getLast?_append, List.getLast?_replicate, if_neg (by omega)]
    rfl
  have stated : (UInt8.ofNat missing).toNat = missing := by
    rw [UInt8.toNat_ofNat', Nat.mod_eq_of_lt (by omega)]
  have rest : (message ++ List.replicate missing (UInt8.ofNat missing)).length - missing =
      message.length := by simp
  unfold emptied?
  dsimp only
  rw [last, stated, rest, List.drop_left, List.take_left]
  simp [least, most]

/-- A message that was encrypted is decrypted. -/
theorem decrypt?_encrypt
    (keySize : key.length = 16) {start : List UInt8} (startSize : start.length = 16)
    (message : List UInt8) : decrypt? key start (encrypt key start message) = some message := by
  obtain ⟨count, size⟩ := length_filledUp message
  have blocks : (filledUp message).length / 16 = count + 1 := by omega
  have written := length_encryptChain keySize start (filledUp message) (count + 1)
  have whole : ¬ ((encryptChain key start (filledUp message) (count + 1)).isEmpty ||
      (encryptChain key start (filledUp message) (count + 1)).length % 16 ≠ 0) = true := by
    rw [List.isEmpty_eq_false_iff.mpr (List.ne_nil_of_length_pos (by omega)), written]
    simp
  unfold encrypt
  dsimp only
  rw [blocks, decrypt?, if_neg whole, written, Nat.mul_div_cancel_left _ (by decide),
    decryptChain_encryptChain keySize startSize size, emptied?_filledUp]

end Chains

end QuoteDesk.Aes
