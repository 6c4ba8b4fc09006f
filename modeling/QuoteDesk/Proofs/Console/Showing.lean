import QuoteDesk.Console
import QuoteDesk.Proofs.Json.Writing
import QuoteDesk.Proofs.Value.Writable

/-!
# Quotes that can be shown

A quote can be shown, as text or as JSON, when its total can be worked out and the
quantities on it are not too long to be written.  A line without a price is never in the
way.
-/

namespace QuoteDesk

open Number

namespace Quote

variable {quote : Quote} {line : QuoteLine}

/-- A quote with a total, and with quantities that can be written. -/
structure Showable (quote : Quote) : Prop where
  total : ∃ total, quote.total = .ok total
  quantities : ∀ line ∈ quote.lines, (Value.int line.quantity).Writable

/-- The sum with one more line. -/
def withLine (sum : Decimal) (line : QuoteLine) : Except DecimalFault Decimal :=
  match line.total with
  | none => .ok sum
  | some lineTotal => do sum.add (← lineTotal)

end Quote

/-! ## As JSON -/

namespace Quote

end Quote

end QuoteDesk
