import QuoteDesk.Proofs.Results
import QuoteDesk.Proofs.Session.Authority

/-!
# What a session can judge

A message keeps the bounds when it is not longer than allowed and has no marks of
scripts.  A bill of materials is judged line by line; only a number that is too long to be
put in words keeps a line from being judged.
-/

namespace QuoteDesk

open Number Text

/-! ## Messages within bounds -/

/-- A line of a bill of materials that can be judged by the rules of commands. -/
def BomLine.Judgeable (line : BomLine) : Prop :=
  ∀ fault, Command.buildAdd line.sku line.quantity ≠ .error (.number fault)

end QuoteDesk
