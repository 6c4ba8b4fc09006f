/-!
# Reasons for dropping a directive
-/

namespace QuoteDesk

/-- Why a directive changes nothing. -/
inductive DropReason where
  | invalidSku
  | invalidQuantity
  /-- No item of the catalog has the article number. -/
  | lookupMiss
  | other (code : String)
deriving DecidableEq, Repr

namespace DropReason

def code : DropReason → String
  | .invalidSku => "invalid_sku"
  | .invalidQuantity => "invalid_quantity"
  | .lookupMiss => "lookup_miss"
  | .other code => code

end DropReason

end QuoteDesk
