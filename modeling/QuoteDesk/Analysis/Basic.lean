import QuoteDesk.Value.Arithmetic

/-!
# Building analyses

An analysis describes a building, what it needs, and a bill of materials. Its parts come from the
model, so their values have no fixed type.
-/

namespace QuoteDesk

open Number

/-- One recommended article. -/
structure BomLine where
  sku : Value
  description : Value
  quantity : Value
  confidence : Value
  reasoning : Value

namespace BomLine

/-- Whether a value, read as a binary number, lies between zero and one. -/
def isShare (x : Binary64) : Bool :=
  (Binary64.compare? (.zero false) x).any (· != .gt) &&
    (Binary64.compare? x (Binary64.ofInt 1)).any (· != .gt)

/-- A line whose confidence lies between zero and one; any other confidence is refused. -/
def build (sku description quantity confidence reasoning : Value) : Except Fault BomLine := do
  if isShare (← confidence.toBinary64) then
    return ⟨sku, description, quantity, confidence, reasoning⟩
  let shown ← confidence.display.mapError .number
  throw (.badValue ("confidence must be within [0, 1], got " ++ shown))

end BomLine

/-- A bill of materials; `total` is its estimated cost, or null. -/
structure Bom where
  lines : List BomLine
  total : Value

/-- The result of analysing a description of a building. -/
structure Analysis where
  spec : Value
  infrastructure : Value
  bom : Bom

end QuoteDesk
