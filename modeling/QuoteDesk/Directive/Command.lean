import QuoteDesk.Directive.Basic
import QuoteDesk.Fault

/-!
# Commands

A command is a change of the quote that has passed the rules: an article number is a word of
capital letters, digits and hyphens, and a quantity lies between 1 and 1000. A quantity that was
given as a text of digits stays that text.
-/

namespace QuoteDesk

open Number Text

def minQuantity : Int := 1

def maxQuantity : Int := 1000

/-- The characters of an article number: capital letters, digits and the hyphen. -/
def isSkuChar (c : Char) : Bool :=
  ('A' ≤ c && c ≤ 'Z') || isAsciiDigit c || c == '-'

/-- An article number is a word of its characters and not empty. -/
def IsSku (s : String) : Prop :=
  s.toList ≠ [] ∧ s.toList.all isSkuChar = true

instance (s : String) : Decidable (IsSku s) := inferInstanceAs (Decidable (_ ∧ _))

/-- How many units are added: a whole number or a text of digits. -/
inductive Amount where
  | number (n : Int)
  | numeral (digits : String)
deriving DecidableEq, Repr

def Amount.toValue : Amount → Value
  | .number n => .int n
  | .numeral digits => .text digits

/-- A change of the quote. -/
inductive Command where
  | add (sku : String) (amount : Amount)
  | remove (sku : String)
  /-- A request that is no change of the quote and is passed over. -/
  | other (request : Value)

/-! ## The rules -/

def refuseSku (value : Value) : Fault :=
  match value.shown with
  | .ok shown => .refusedCommand .invalidSku ("Invalid SKU " ++ shown)
  | .error fault => .number fault

def refuseQuantity (value : Value) : Fault :=
  match value.shown with
  | .ok shown => .refusedCommand .invalidQuantity ("Invalid quantity " ++ shown)
  | .error fault => .number fault

def refuseRange (n : Int) : Fault :=
  match writeInteger n with
  | .ok shown =>
    .refusedCommand .invalidQuantity s!"Quantity {shown} outside {minQuantity}..{maxQuantity}"
  | .error fault => .number fault

/-- Takes a value as an article number. -/
def checkSku (value : Value) : Except Fault String :=
  match value with
  | .text s => if IsSku s then .ok s else .error (refuseSku value)
  | _ => .error (refuseSku value)

def checkRange (n : Int) : Except Fault Int :=
  if minQuantity ≤ n ∧ n ≤ maxQuantity then .ok n else .error (refuseRange n)

/-- A text of ASCII digits, at least one. -/
def isDigits (s : String) : Bool :=
  !s.isEmpty && s.toList.all isAsciiDigit

/-- Takes a whole number or a text of digits as a quantity. -/
def readQuantity (value : Value) : Except Fault Int :=
  match value with
  | .int n => checkRange n
  | .text s =>
    if isDigits s then
      if digitLimit < s.length then .error (.number (.tooManyDigits s.length))
      else checkRange (decimalValue s.toList)
    else .error (refuseQuantity value)
  | _ => .error (refuseQuantity value)

/-! ## Building commands -/

/-- The amount that a checked value stands for. -/
def Amount.ofValue (value : Value) (n : Int) : Amount :=
  match value with
  | .text digits => .numeral digits
  | _ => .number n

namespace Command

/-- Builds an addition; the article number is checked first. The quantity is kept as given. -/
def buildAdd (sku quantity : Value) : Except Fault Command := do
  let sku ← checkSku sku
  let n ← readQuantity quantity
  return .add sku (.ofValue quantity n)

def buildRemove (sku : Value) : Except Fault Command := do
  return .remove (← checkSku sku)

/-- The command of a directive, its quantity as a number. A directive of another kind has none. -/
def ofDirective (directive : Directive) : Except Fault (Option Command) :=
  match directive.kind with
  | .addToQuote => do
    let sku ← checkSku directive.sku
    let n ← readQuantity directive.quantity
    return some (.add sku (.number n))
  | .removeFromQuote => do return some (.remove (← checkSku directive.sku))
  | .other _ => return none

/-- The directive that asks for a command, as it is written. -/
def render : Command → List Char
  | .add sku (.number n) =>
    "[ACTION:ADD_TO_QUOTE, SKU:".toList ++ sku.toList ++ ", QUANTITY:".toList ++
      (integerText n).toList ++ [']']
  | .add sku (.numeral digits) =>
    "[ACTION:ADD_TO_QUOTE, SKU:".toList ++ sku.toList ++ ", QUANTITY:".toList ++ digits.toList ++ [']']
  | .remove sku => "[ACTION:REMOVE_FROM_QUOTE, SKU:".toList ++ sku.toList ++ [']']
  | .other _ => []

/-- The command keeps the rules. -/
def Valid : Command → Prop
  | .add sku (.number n) => IsSku sku ∧ minQuantity ≤ n ∧ n ≤ maxQuantity
  | .add sku (.numeral digits) =>
    IsSku sku ∧ isDigits digits = true ∧ minQuantity ≤ decimalValue digits.toList ∧
      decimalValue digits.toList ≤ maxQuantity
  | .remove sku => IsSku sku
  | .other _ => True

end Command

/-! ## What is built is valid -/

theorem checkSku_eq_ok {value : Value} {sku : String} (checked : checkSku value = .ok sku) :
    value = .text sku ∧ IsSku sku := by
  unfold checkSku at checked
  split at checked
  · split at checked
    · rename_i isSku
      cases checked
      exact ⟨rfl, isSku⟩
    · cases checked
  · cases checked

theorem checkRange_eq_ok {n m : Int} (checked : checkRange n = .ok m) :
    m = n ∧ minQuantity ≤ n ∧ n ≤ maxQuantity := by
  unfold checkRange at checked
  split at checked
  · rename_i inRange
    cases checked
    exact ⟨rfl, inRange⟩
  · cases checked

/-- A quantity that is taken is a number in the range, or a text of digits of one. -/
theorem readQuantity_eq_ok {value : Value} {n : Int} (taken : readQuantity value = .ok n) :
    (minQuantity ≤ n ∧ n ≤ maxQuantity) ∧
      (value = .int n ∨
        ∃ digits, value = .text digits ∧ isDigits digits = true ∧
          decimalValue digits.toList = n) := by
  unfold readQuantity at taken
  split at taken
  · obtain ⟨rfl, inRange⟩ := checkRange_eq_ok taken
    exact ⟨inRange, .inl rfl⟩
  · split at taken
    · rename_i digits isNumeral
      split at taken
      · cases taken
      · obtain ⟨rfl, inRange⟩ := checkRange_eq_ok taken
        exact ⟨inRange, .inr ⟨digits, rfl, isNumeral, rfl⟩⟩
    · cases taken
  · cases taken

end QuoteDesk
