import QuoteDesk.Catalog
import QuoteDesk.Log

/-!
# The quote

A quote has one line for each article number, in the order in which the articles first came. Name,
price and stock of a line are those of the item that opened it; later additions raise only its
quantity. The total adds the priced lines in order.
-/

namespace QuoteDesk

open Number Text

/-- One article on the quote. -/
structure QuoteLine where
  sku : String
  name : String
  quantity : Int
  unitPrice : Option Decimal
  stock : Option Int
deriving DecidableEq

namespace QuoteLine

/-- Whether more is asked for than is known to be in stock. -/
def isBackorder (line : QuoteLine) : Bool :=
  line.stock.any fun stock => stock < line.quantity

/-- Price times quantity, for a line with a price. -/
def total (line : QuoteLine) : Option (Except DecimalFault Decimal) :=
  line.unitPrice.map fun price => price.mul (.ofInt line.quantity)

def toEntries (line : QuoteLine) : Entries :=
  [("sku", .text line.sku), ("name", .text line.name), ("quantity", .int line.quantity),
    ("unit_price", match line.unitPrice with
      | none => .null
      | some price => .text price.write),
    ("is_backorder", .bool line.isBackorder)]

end QuoteLine

/-- The lines of a quote in their order. -/
structure Quote where
  lines : List QuoteLine
deriving DecidableEq

namespace Quote

def logger : String := "quotewise.core.quote"

def empty : Quote := ⟨[]⟩

def line? (quote : Quote) (sku : String) : Option QuoteLine :=
  quote.lines.find? fun line => line.sku = sku

/-- The stock that an item states as a number; a fraction is dropped. -/
def statedStock (stock : Value) : Except Fault (Option Int) :=
  match stock with
  | .int n => .ok (some n)
  | .bool b => .ok (some b.toNat)
  | .float .notANumber => .error (.badValue "cannot convert float NaN to integer")
  | .float (.infinite _) => .error (.tooLarge "cannot convert float infinity to integer")
  | .float x => .ok x.truncate?
  | _ => .ok none

/-- The name that an item states; a missing or absent one is its article number. -/
def statedName (item : Value) (sku : String) : Except IntegerFault String :=
  let name := item.field "name" (.text sku)
  if name.isTruthy then name.display else .ok sku

/-- The line that an item opens. -/
def openLine (item : Value) (sku : String) (quantity : Int) : Except Fault QuoteLine := do
  let name ← (statedName item sku).mapError .number
  let stock ← statedStock (item.field "stock" .null)
  return ⟨sku, name, quantity, toDecimal (item.field "price" .null), stock⟩

def raise (quote : Quote) (sku : String) (quantity : Int) : Quote :=
  ⟨quote.lines.map fun line =>
    if line.sku = sku then { line with quantity := line.quantity + quantity } else line⟩

/-- The record of an addition; there is none when a number in it cannot be written. -/
def additionRecord (line : QuoteLine) (quantity : Int) : List LogRecord :=
  match writeInteger quantity, writeInteger line.quantity with
  | .ok added, .ok total =>
    [.info logger ("Quote: " ++ line.sku ++ " x" ++ added ++ " (line total quantity " ++ total ++ ")")]
  | _, _ => []

/-- Adds units of an item and gives its line. -/
def add (quote : Quote) (item : Value) (quantity : Int) :
    Except Fault (Quote × QuoteLine × List LogRecord) := do
  let some sku ← (itemId item).mapError .number
    | throw (.badValue "Inventory item has no id")
  if quantity < 1 then
    let shown ← (writeInteger quantity).mapError .number
    throw (.badValue ("Quantity must be positive, got " ++ shown))
  match quote.line? sku with
  | some line =>
    let raised := { line with quantity := line.quantity + quantity }
    return (quote.raise sku quantity, raised, additionRecord raised quantity)
  | none =>
    let line ← openLine item sku quantity
    return (⟨quote.lines ++ [line]⟩, line, additionRecord line quantity)

def contains (quote : Quote) (sku : String) : Bool :=
  (quote.line? sku).isSome

def remove (quote : Quote) (sku : String) : Quote :=
  ⟨quote.lines.filter fun line => line.sku ≠ sku⟩

/-- The record of a removal; there is none when the article was not on the quote. -/
def removalRecord (quote : Quote) (sku : String) : List LogRecord :=
  if quote.contains sku then [.info logger ("Quote: removed " ++ sku)] else []

def total (quote : Quote) : Except DecimalFault Decimal :=
  quote.lines.foldlM (fun sum line =>
    match line.total with
    | none => .ok sum
    | some lineTotal => do sum.add (← lineTotal)) Decimal.zero

end Quote

end QuoteDesk
