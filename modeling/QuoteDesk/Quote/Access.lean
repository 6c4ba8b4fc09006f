import QuoteDesk.Directive.Command
import QuoteDesk.Quote

/-!
# Access to a quote

Whoever executes commands sees a quote only through two operations, and any state may stand behind
them. This module also holds a desk, which notes every call of the operations, refuses articles
that it is told to refuse and may keep a real quote.
-/

namespace QuoteDesk

/-- What an operation leads to: the state after it, the records it made and why it failed, if it
did. -/
structure Change (σ : Type) where
  state : σ
  log : List LogRecord
  failure : Option Fault

/-- The operations that change a quote. -/
structure QuoteAccess (σ : Type) where
  add : σ → Value → Amount → Change σ
  remove : σ → String → Change σ

namespace QuoteAccess

def idle : QuoteAccess σ where
  add state _ _ := ⟨state, [], none⟩
  remove state _ := ⟨state, [], none⟩

end QuoteAccess

namespace Quote

/-- Adds an amount of an item. An amount that is a text is no number to add. -/
def addAmount (quote : Quote) (item : Value) : Amount → Change Quote
  | .number n =>
    match quote.add item n with
    | .ok (next, _, log) => ⟨next, log, none⟩
    | .error fault => ⟨quote, [], some fault⟩
  | .numeral _ =>
    match itemId item with
    | .ok (some _) =>
      ⟨quote, [], some (.wrongType "'<' not supported between instances of 'str' and 'int'")⟩
    | .ok none => ⟨quote, [], some (.badValue "Inventory item has no id")⟩
    | .error fault => ⟨quote, [], some (.number fault)⟩

def access : QuoteAccess Quote where
  add := addAmount
  remove quote sku := ⟨quote.remove sku, quote.removalRecord sku, none⟩

end Quote

/-! ## A desk -/

inductive QuoteCall where
  | add (item : Value) (amount : Amount)
  | remove (sku : String)

/-- A quote together with the calls that were made, in order. -/
structure Desk where
  quote : Quote
  calls : List QuoteCall

/-- How a desk behaves: the articles whose addition or removal it refuses, and whether it changes
its quote. -/
structure DeskRules where
  refusedAdditions : List String
  refusedRemovals : List String
  changesQuote : Bool

namespace Desk

def empty : Desk := ⟨.empty, []⟩

def note (desk : Desk) (call : QuoteCall) : Desk :=
  { desk with calls := desk.calls ++ [call] }

/-- Carries a change of the quote over to the desk. -/
def changed (desk : Desk) (change : Change Quote) : Change Desk :=
  ⟨{ desk with quote := change.state }, change.log, change.failure⟩

/-- The operations of a desk. A refused call is noted and changes nothing. -/
def access (rules : DeskRules) : QuoteAccess Desk where
  add desk item amount :=
    let noted := desk.note (.add item amount)
    match itemId item with
    | .ok (some id) =>
      if rules.refusedAdditions.contains id then
        ⟨noted, [], some (.reported "RuntimeError" ("cannot add " ++ id))⟩
      else if rules.changesQuote then noted.changed (desk.quote.addAmount item amount)
      else ⟨noted, [], none⟩
    | _ => if rules.changesQuote then noted.changed (desk.quote.addAmount item amount)
      else ⟨noted, [], none⟩
  remove desk sku :=
    let noted := desk.note (.remove sku)
    if rules.refusedRemovals.contains sku then
      ⟨noted, [], some (.reported "RuntimeError" ("cannot remove " ++ sku))⟩
    else if rules.changesQuote then noted.changed (Quote.access.remove desk.quote sku)
    else ⟨noted, [], none⟩

end Desk

end QuoteDesk
