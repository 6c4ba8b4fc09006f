import QuoteDesk.Value

/-!
# Directives

A reply of the assistant may hold directives, marks in brackets that ask for a change of the
quote. This module holds their kinds, the form in which they are written and the shape of a
directive that was found in a text. What a directive asks for is checked later.
-/

namespace QuoteDesk

/-- What a directive asks for. -/
inductive DirectiveKind where
  | addToQuote
  | removeFromQuote
  /-- A kind that is never found in a text. -/
  | other (name : String)
deriving DecidableEq, Repr

namespace DirectiveKind

def name : DirectiveKind → String
  | .addToQuote => "ADD_TO_QUOTE"
  | .removeFromQuote => "REMOVE_FROM_QUOTE"
  | .other name => name

def ofName (name : String) : DirectiveKind :=
  if name = DirectiveKind.addToQuote.name then .addToQuote
  else if name = DirectiveKind.removeFromQuote.name then .removeFromQuote
  else .other name

end DirectiveKind

/-- A stretch of a text, from `start` up to before `stop`. It is given from outside and may lie
anywhere. -/
structure Span where
  start : Int
  stop : Int
deriving DecidableEq, Repr

/-- A directive with its fields as they are written, and where it stands. -/
structure Directive where
  kind : DirectiveKind
  fields : Entries
  span : Span

namespace Directive

/-- A field of a directive; a missing one counts as empty. -/
def field (directive : Directive) (name : String) : Value :=
  (directive.fields.valueOf? name).getD (.text "")

def sku (directive : Directive) : Value :=
  directive.field "SKU"

def quantity (directive : Directive) : Value :=
  directive.field "QUANTITY"

end Directive

end QuoteDesk
