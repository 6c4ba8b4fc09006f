import QuoteDesk.Proofs.Analysis.Converting
import QuoteDesk.Proofs.Directive.Building
import QuoteDesk.Proofs.Reply.Fates
import QuoteDesk.Session.Bom

/-!
# Every order has one fate

An order is refused by the rules, or it misses the inventory, or it is executed by one
call.  The lines of a bill of materials become commands in their order, and those that
are refused are reported on the way.
-/

namespace QuoteDesk

open Number Text

/-! ## Fates of orders -/

/-- The diagnostic of an order that breaks a rule. -/
def orderRejection (sku : String) (reason : DropReason) (message : String) : Diagnostic :=
  ⟨reason, DirectiveKind.addToQuote.name, .text sku,
    [("message", .text message), ("source", .text "bom")]⟩

/-- What becomes of an order among some items: its article number has to be one, no
more than 1000 units are sold at once, and the first item with the number is sold. -/
def orderFate (items : List Value) (sku : String) (n : Int) : Directive.Fate :=
  if IsSku sku then
    if n ≤ 1000 then
      match firstWithId items sku with
      | none => .missed (Command.lookupMiss sku (.number n))
      | some item => .executed (.add sku (.number n)) (.add item (.number n))
    else
      .refused (orderRejection sku .invalidQuantity
        s!"Quantity {integerText n} outside {minQuantity}..{maxQuantity}")
  else .refused (orderRejection sku .invalidSku ("Invalid SKU " ++ quoted sku))

/-- The fate of a line of a payload is that of what it orders. -/
def Value.OrderMeets (items : List Value) (line : Value) (fate : Directive.Fate) : Prop :=
  ∃ sku n, line.Orders sku n ∧ fate = orderFate items sku n

/-- An order meets exactly one fate in a list of items. -/
theorem Value.Orders.existsUnique_fate
    {line : Value} {sku : String} {n : Int} (orders : line.Orders sku n) (items : List Value) :
    ∃! fate, line.OrderMeets items fate := by
  refine ⟨orderFate items sku n, ⟨sku, n, orders, rfl⟩, ?_⟩
  rintro _ ⟨otherSku, m, otherOrders, rfl⟩
  obtain ⟨rfl, rfl⟩ := orders.unique otherOrders
  rfl

theorem Directive.length_executed (fates : List Directive.Fate) :
    (fates.filterMap Directive.Fate.command?).length =
      (fates.filterMap Directive.Fate.call?).length := by
  induction fates with
  | nil => rfl
  | cons fate rest inductionHypothesis =>
      cases fate with
      | refused diagnostic => exact inductionHypothesis
      | missed diagnostic => exact inductionHypothesis
      | executed command call => exact congrArg Nat.succ inductionHypothesis

/-! ## Commands of orders -/

/-- A fate that says what a catalog makes of a command. -/
structure Directive.Fate.Follows (catalog : Catalog) (command : Command) (fate : Directive.Fate) :
    Prop where
  refusal : fate.refusal? = none
  miss : fate.miss? = command.miss? catalog
  call : fate.call? = command.call? catalog

variable {items : List Value} {catalog : Catalog}

theorem follows_of_fitting
    (finds : ∀ sku, catalog.find? sku = firstWithId items sku)
    {sku : String} {n : Int} (isSku : IsSku sku) (most : n ≤ 1000) :
    (orderFate items sku n).Follows catalog (.add sku (.number n)) := by
  have found := finds sku
  rw [orderFate, if_pos isSku, if_pos most]
  cases known : firstWithId items sku with
  | none =>
      rw [known] at found
      constructor
      · rfl
      · rw [Command.miss?, found]
        rfl
      · rw [Command.call?, found]
        rfl
  | some item =>
      rw [known] at found
      constructor
      · rfl
      · rw [Command.miss?, found]
        rfl
      · rw [Command.call?, found]
        rfl

namespace Stage

variable {σ : Type}

/-- One line: it is reported, or its command comes behind those before it. -/
theorem bomCommands_cons
    (finds : ∀ sku, catalog.find? sku = firstWithId items sku)
    {line : BomLine} {sku : String} {n : Int} (least : 1 ≤ n) (short : n.natAbs < 10 ^ digitLimit)
    (article : line.sku = .text sku) (quantity : line.quantity = .int n)
    (bench : Bench σ) (before : List Command) (rest : List BomLine) :
    (∃ diagnostic, orderFate items sku n = .refused diagnostic ∧
      bomCommands bench before (line :: rest) =
        bomCommands (bench.report diagnostic) before rest) ∨
    ∃ command, (orderFate items sku n).Follows catalog command ∧
      bomCommands bench before (line :: rest) = bomCommands bench (command :: before) rest := by
  by_cases isSku : IsSku sku
  · by_cases most : n ≤ 1000
    · refine .inr ⟨.add sku (.number n), follows_of_fitting finds isSku most, ?_⟩
      rw [bomCommands, article, quantity, buildAdd_of_fitting isSku least most]
    · refine .inl ⟨_, by rw [orderFate, if_pos isSku, if_neg most], ?_⟩
      rw [bomCommands, article, quantity, buildAdd_of_outside isSku (most ·.2) short]
      simp only [lineRejection, article, orderRejection]
  · refine .inl ⟨_, by rw [orderFate, if_neg isSku], ?_⟩
    rw [bomCommands, article, buildAdd_of_not_isSku isSku]
    simp only [lineRejection, article, orderRejection]

/-- The commands of the lines, beside the fates of the orders. -/
theorem exists_bomCommands
    (finds : ∀ sku, catalog.find? sku = firstWithId items sku)
    {lines : List Value} {converted : List BomLine}
    (converts : List.Forall₂ BomLine.Converts lines converted)
    (bench : Bench σ) (before : List Command) :
    ∃ fates commands,
      List.Forall₂ (Value.OrderMeets items) lines fates ∧
        bomCommands bench before converted =
          (.ok (before.reverse ++ commands),
            bench.reportAll (fates.filterMap Directive.Fate.refusal?)) ∧
        fates.filterMap Directive.Fate.miss? = commands.filterMap (Command.miss? catalog) ∧
        fates.filterMap Directive.Fate.call? = commands.filterMap (Command.call? catalog) := by
  induction converts generalizing bench before with
  | nil =>
      refine ⟨[], [], .nil, ?_, rfl, rfl⟩
      rw [bomCommands, List.append_nil]
      rfl
  | cons one _ inductionHypothesis =>
      obtain ⟨sku, n, orders, least, short, article, quantity⟩ := one.ordered
      rcases bomCommands_cons finds least short article quantity bench before _ with
        ⟨diagnostic, fate, stepped⟩ | ⟨command, follows, stepped⟩
      · obtain ⟨fates, commands, meet, work, misses, calls⟩ :=
          inductionHypothesis (bench.report diagnostic) before
        refine ⟨.refused diagnostic :: fates, commands, .cons ⟨sku, n, orders, fate.symm⟩ meet, ?_,
          misses, calls⟩
        rw [stepped, work]
        rfl
      · obtain ⟨fates, commands, meet, work, misses, calls⟩ :=
          inductionHypothesis bench (command :: before)
        refine ⟨orderFate items sku n :: fates, command :: commands,
          .cons ⟨sku, n, orders, rfl⟩ meet, ?_, ?_, ?_⟩
        · rw [stepped, work, List.reverse_cons, List.append_assoc, List.singleton_append,
            List.filterMap_cons_none follows.refusal]
        · rw [List.filterMap_cons, List.filterMap_cons, follows.miss, misses]
        · rw [List.filterMap_cons, List.filterMap_cons, follows.call, calls]

end Stage

end QuoteDesk
