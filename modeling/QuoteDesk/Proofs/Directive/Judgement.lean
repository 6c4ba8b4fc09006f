import Mathlib.Data.List.Forall2
import QuoteDesk.Proofs.Directive.Bench
import QuoteDesk.Proofs.Directive.Scanning
import QuoteDesk.Proofs.Number.Length

/-!
# The rules for directives

A directive of a text is judged by two rules: its article number has to be one,
and a quantity is a word of digits for a number from 1 to 1000.  Checking
follows the rules with one exception.  A quantity of more digits than are read
is not refused; reading it is a fault of its own, which ends the checking.
-/

namespace QuoteDesk

open Number Text

/-- A text is a word of digits for a quantity that can be added at once. -/
structure IsQuantity (written : String) (n : Nat) : Prop where
  nonempty : written.toList ≠ []
  digits : ∀ c ∈ written.toList, isAsciiDigit c = true
  value : decimalValue written.toList = n
  range : 1 ≤ n ∧ n ≤ 1000

/-- What is said about a text that is no quantity. -/
def quantityComplaint (written : String) : String :=
  if isDigits written then
    s!"Quantity {integerText (decimalValue written.toList)} outside {minQuantity}..{maxQuantity}"
  else "Invalid quantity " ++ quoted written

/-- What the rules say about a directive: it is refused with a diagnostic, or
it asks for a command. -/
inductive Verdict where
  | refused (diagnostic : Diagnostic)
  | accepted (command : Command)

namespace Verdict

def diagnostic? : Verdict → Option Diagnostic
  | .refused diagnostic => some diagnostic
  | .accepted _ => none

def command? : Verdict → Option Command
  | .refused _ => none
  | .accepted command => some command

end Verdict

namespace Directive

/-- The verdict of the rules on a directive. -/
inductive Judged (directive : Directive) : Verdict → Prop
  | badSku {sku : String} :
      directive.sku = .text sku →
      ¬ IsSku sku →
      Judged directive
        (.refused (directive.rejection .invalidSku ("Invalid SKU " ++ quoted sku)))
  | badQuantity {sku quantity : String} :
      directive.kind = .addToQuote →
      directive.sku = .text sku →
      IsSku sku →
      directive.quantity = .text quantity →
      (∀ n, ¬ IsQuantity quantity n) →
      Judged directive
        (.refused (directive.rejection .invalidQuantity (quantityComplaint quantity)))
  | add {sku quantity : String} {n : Nat} :
      directive.kind = .addToQuote →
      directive.sku = .text sku →
      IsSku sku →
      directive.quantity = .text quantity →
      IsQuantity quantity n →
      Judged directive (.accepted (.add sku (.number n)))
  | remove {sku : String} :
      directive.kind = .removeFromQuote →
      directive.sku = .text sku →
      IsSku sku →
      Judged directive (.accepted (.remove sku))

/-- An addition of a proper article whose quantity is a word of `count` digits,
which is more than are read. -/
structure Overlong (directive : Directive) (count : Nat) : Prop where
  kind : directive.kind = .addToQuote
  sku : ∃ sku, directive.sku = .text sku ∧ IsSku sku
  quantity : ∃ quantity, directive.quantity = .text quantity ∧
    isDigits quantity = true ∧ quantity.length = count
  long : digitLimit < count

/-- The shape of the directives that stand in texts. -/
def Written (directive : Directive) : Prop :=
  (directive.kind = .addToQuote ∧ ∃ sku quantity,
      directive.sku = .text sku ∧ directive.quantity = .text quantity) ∨
    (directive.kind = .removeFromQuote ∧ ∃ sku, directive.sku = .text sku)

theorem written_of_mem_scan
    {chars : List Char} {directive : Directive} (member : directive ∈ scan chars) :
    directive.Written := by
  obtain ⟨mark, start, stop, _, rfl⟩ := mem_scan.1 member
  cases mark with
  | add sku quantity => exact Or.inl ⟨rfl, _, _, rfl, rfl⟩
  | remove sku => exact Or.inr ⟨rfl, _, rfl⟩

end Directive

/-! ## Reading a quantity -/

theorem isDigits_iff {written : String} :
    isDigits written = true ↔
      written.toList ≠ [] ∧ ∀ c ∈ written.toList, isAsciiDigit c = true := by
  simp [isDigits, List.all_eq_true]

theorem IsQuantity.isDigits
    {written : String} {n : Nat} (quantity : IsQuantity written n) :
    isDigits written = true :=
  isDigits_iff.2 ⟨quantity.nonempty, quantity.digits⟩

theorem IsQuantity.unique
    {written : String} {n m : Nat}
    (first : IsQuantity written n) (second : IsQuantity written m) :
    n = m :=
  first.value.symm.trans second.value

theorem readQuantity_of_isQuantity
    {written : String} {n : Nat} (quantity : IsQuantity written n)
    (short : written.length ≤ digitLimit) :
    readQuantity (.text written) = .ok n := by
  obtain ⟨lower, upper⟩ := quantity.range
  have inRange : minQuantity ≤ (n : Int) ∧ (n : Int) ≤ maxQuantity := by
    simp only [minQuantity, maxQuantity]
    omega
  rw [readQuantity, if_pos quantity.isDigits, if_neg (Nat.not_lt.2 short),
    quantity.value, checkRange, if_pos inRange]

theorem readQuantity_of_not_isQuantity
    {written : String} (bad : ∀ n, ¬ IsQuantity written n)
    (short : isDigits written = true → written.length ≤ digitLimit) :
    readQuantity (.text written) =
      .error (.refusedCommand .invalidQuantity (quantityComplaint written)) := by
  by_cases digits : isDigits written = true
  · obtain ⟨nonempty, allDigits⟩ := isDigits_iff.1 digits
    -- A word of digits fails to be a quantity by its value alone.
    have outside : ¬ (minQuantity ≤ (decimalValue written.toList : Int) ∧
        (decimalValue written.toList : Int) ≤ maxQuantity) := by
      intro inRange
      simp only [minQuantity, maxQuantity] at inRange
      exact bad _ ⟨nonempty, allDigits, rfl, by omega⟩
    have shown := writeInteger_decimalValue allDigits nonempty (short digits)
    rw [readQuantity, if_pos digits, if_neg (Nat.not_lt.2 (short digits)),
      checkRange, if_neg outside, refuseRange, shown, quantityComplaint, if_pos digits]
  · rw [readQuantity, if_neg digits, quantityComplaint, if_neg digits]
    rfl

theorem readQuantity_of_overlong
    {written : String} (digits : isDigits written = true)
    (long : digitLimit < written.length) :
    readQuantity (.text written) = .error (.number (.tooManyDigits written.length)) := by
  rw [readQuantity, if_pos digits, if_pos long]

theorem readQuantity_int_of_outside
    {n : Int} (outside : ¬ (minQuantity ≤ n ∧ n ≤ maxQuantity)) (short : n.natAbs < 10 ^ digitLimit) :
    readQuantity (.int n) = .error (.refusedCommand .invalidQuantity
      s!"Quantity {integerText n} outside {minQuantity}..{maxQuantity}") := by
  have notLong : ¬ digitLimit < decimalLength n.natAbs :=
    Nat.not_lt.mpr ((decimalLength_le_iff (by decide)).mpr short)
  rw [readQuantity, checkRange, if_neg outside, refuseRange, writeInteger, if_neg notLong]

/-! ## Verdicts exist and are unique -/

theorem checkSku_of_isSku {sku : String} (isSku : IsSku sku) :
    checkSku (.text sku) = .ok sku := by
  rw [checkSku, if_pos isSku]

theorem checkSku_of_not_isSku {sku : String} (isSku : ¬ IsSku sku) :
    checkSku (.text sku) =
      .error (.refusedCommand .invalidSku ("Invalid SKU " ++ quoted sku)) := by
  rw [checkSku, if_neg isSku]
  rfl

namespace Directive

/-- The rules have a verdict on every directive that is written. -/
theorem Written.exists_judged
    {directive : Directive} (written : directive.Written) :
    ∃ verdict, directive.Judged verdict := by
  rcases written with
    ⟨kind, sku, quantity, skuText, quantityText⟩ | ⟨kind, sku, skuText⟩
  · by_cases isSku : IsSku sku
    · by_cases isQuantity : ∃ n, IsQuantity quantity n
      · obtain ⟨n, isQuantity⟩ := isQuantity
        exact ⟨_, .add kind skuText isSku quantityText isQuantity⟩
      · exact ⟨_, .badQuantity kind skuText isSku quantityText
          (not_exists.1 isQuantity)⟩
    · exact ⟨_, .badSku skuText isSku⟩
  · by_cases isSku : IsSku sku
    · exact ⟨_, .remove kind skuText isSku⟩
    · exact ⟨_, .badSku skuText isSku⟩

private theorem text_unique
    {value : Value} {first second : String}
    (isFirst : value = .text first) (isSecond : value = .text second) :
    first = second := by
  rw [isFirst] at isSecond
  exact Value.text.inj isSecond

/-- The rules have one verdict. -/
theorem Judged.unique
    {directive : Directive} {verdict other : Verdict}
    (first : directive.Judged verdict) (second : directive.Judged other) :
    verdict = other := by
  cases first with
  | badSku skuText bad =>
      cases second with
      | badSku skuText' _ => rw [text_unique skuText skuText']
      | badQuantity _ skuText' good _ _ =>
          exact absurd good (text_unique skuText skuText' ▸ bad)
      | add _ skuText' good _ _ =>
          exact absurd good (text_unique skuText skuText' ▸ bad)
      | remove _ skuText' good =>
          exact absurd good (text_unique skuText skuText' ▸ bad)
  | badQuantity kind skuText good quantityText noQuantity =>
      cases second with
      | badSku skuText' bad =>
          exact absurd good (text_unique skuText' skuText ▸ bad)
      | badQuantity _ _ _ quantityText' _ =>
          rw [text_unique quantityText quantityText']
      | add _ _ _ quantityText' isQuantity =>
          exact absurd isQuantity (text_unique quantityText quantityText' ▸ noQuantity _)
      | remove kind' _ _ =>
          rw [kind] at kind'
          cases kind'
  | add kind skuText good quantityText isQuantity =>
      cases second with
      | badSku skuText' bad =>
          exact absurd good (text_unique skuText' skuText ▸ bad)
      | badQuantity _ _ _ quantityText' noQuantity =>
          exact absurd isQuantity (text_unique quantityText' quantityText ▸ noQuantity _)
      | add _ skuText' _ quantityText' isQuantity' =>
          cases text_unique skuText skuText'
          cases text_unique quantityText quantityText'
          rw [isQuantity.unique isQuantity']
      | remove kind' _ _ =>
          rw [kind] at kind'
          cases kind'
  | remove kind skuText good =>
      cases second with
      | badSku skuText' bad =>
          exact absurd good (text_unique skuText' skuText ▸ bad)
      | badQuantity kind' _ _ _ _ =>
          rw [kind] at kind'
          cases kind'
      | add kind' _ _ _ _ =>
          rw [kind] at kind'
          cases kind'
      | remove _ skuText' _ => rw [text_unique skuText skuText']

end Directive

end QuoteDesk
