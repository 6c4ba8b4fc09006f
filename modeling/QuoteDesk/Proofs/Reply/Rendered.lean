import QuoteDesk.Proofs.Directive.Rendering
import QuoteDesk.Proofs.Reply.Replay
import QuoteDesk.Proofs.Reply.Faults

/-!
# Rendered commands are executed

A reply of rendered commands between texts without directives is checked to
exactly these commands.  With operations that never fail and an inventory that
has every article added, each of them is executed by one call, in their order.
An inventory that cannot be put into a catalog is at fault instead, before
anything is executed.
-/

namespace QuoteDesk

open Command

namespace Reply

variable {σ : Type} {context : TurnContext σ} {bench : Bench σ} {catalog : Catalog}
  {commands : List Command} {first : List Char} {pieces : List (Command × List Char)}

/-- An inventory has an item for every article that some commands add. -/
def Stocks (inventory : Value) (commands : List Command) : Prop :=
  ∀ sku amount, Command.add sku amount ∈ commands →
    ∃ item ∈ itemsOf inventory, item.hasId sku = true

theorem isExecutable_of_stocks
    {inventory : Value} (plain : ∀ command ∈ commands, command.Plain)
    (indexed : catalogOf inventory = .ok catalog)
    (stocks : Stocks inventory commands) :
    ∀ command ∈ commands, command.isExecutable catalog = true := by
  intro command member
  cases plain command member with
  | @add sku n isSku lower upper =>
      obtain ⟨item, offered, hasId⟩ := stocks sku (.number n) member
      have found : (catalog.find? sku).isSome = true := by
        rw [find?_catalogOf indexed, firstWithId, List.find?_isSome]
        exact ⟨item, offered, hasId⟩
      simpa [isExecutable, call?] using found
  | remove isSku => rfl

/-- With operations that never fail, commands that all ask for a call are
executed one after the other. -/
theorem runAll_noting_of_isExecutable
    {access : QuoteAccess σ}
    (unfailing : ∀ state call, (access.make state call).failure = none)
    (executable : ∀ command ∈ commands, command.isExecutable catalog = true)
    (bench : Bench (Noted σ)) :
    ∃ after, runAll access.noting catalog bench [] commands = (.ok commands, after) ∧
      after.state.calls = bench.state.calls ++
        (commands.filterMap (call? catalog)).map QuoteCall.succeeded ∧
      after.sink = bench.sink := by
  have watched : ∀ state call, (access.noting.make state call).failure = none := by
    intro state call
    rw [QuoteAccess.make_noting]
    exact unfailing state.state call
  obtain ⟨executed, after, ran⟩ := runAll_of_unfailing watched catalog bench [] commands
  obtain ⟨kept, calls, reported⟩ := runAll_noting_ok ran
  have noMiss : commands.filterMap (miss? catalog) = [] := by
    rw [List.filterMap_eq_nil_iff]
    intro command member
    obtain ⟨call, asked⟩ := Option.isSome_iff_exists.1 (executable command member)
    exact (run_of_call?_eq_some asked access.noting bench).2
  rw [List.nil_append, List.filter_eq_self.2 executable] at kept
  rw [noMiss] at reported
  subst kept
  exact ⟨after, ran, calls, reported⟩

theorem map_some_calls
    (executable : ∀ command ∈ commands, command.isExecutable catalog = true) :
    ((commands.filterMap (call? catalog)).map QuoteCall.succeeded).map some =
      commands.map fun command => (command.call? catalog).map QuoteCall.succeeded := by
  induction commands with
  | nil => rfl
  | cons command rest inductionHypothesis =>
      obtain ⟨call, asked⟩ :=
        Option.isSome_iff_exists.1 (executable command List.mem_cons_self)
      have restCalls := inductionHypothesis
        fun other member => executable other (List.mem_cons_of_mem command member)
      rw [List.filterMap_cons_some asked, List.map_cons, List.map_cons, restCalls,
        List.map_cons, asked]
      rfl

/-! ## Replies of rendered commands -/

/-- The directives between quiet texts are checked to the commands that they write. -/
theorem checkAll_woven
    (plain : ∀ piece ∈ pieces, piece.1.Plain)
    (firstQuiet : Directive.scan first = [])
    (quiet : ∀ piece ∈ pieces, Directive.scan piece.2 = []) (bench : Bench σ) :
    (Directive.scan (woven first pieces)).length = (pieces.map Prod.fst).length ∧
      checkAll bench (Directive.scan (woven first pieces)) =
        (⟨(Directive.scan (woven first pieces)).zip ((pieces.map Prod.fst).map some), none⟩,
          bench) := by
  have asks := scanFrom_woven plain firstQuiet quiet 0
  exact ⟨asks.length_eq, checkAll_of_asks asks bench⟩

theorem woven_ne_nil (nonempty : pieces ≠ []) (plain : ∀ piece ∈ pieces, piece.1.Plain) :
    woven first pieces ≠ [] := by
  cases pieces with
  | nil => exact absurd rfl nonempty
  | cons piece rest =>
      obtain ⟨mark, spelled, _⟩ := (plain piece List.mem_cons_self).reads_back
      obtain ⟨inner, opens, _⟩ := spelled.opens_once
      rw [woven_cons, opens]
      simp

/-- Rendered commands whose articles are all in the catalog are executed. -/
theorem process_woven_of_catalog
    (plain : ∀ piece ∈ pieces, piece.1.Plain)
    (firstQuiet : Directive.scan first = [])
    (quiet : ∀ piece ∈ pieces, Directive.scan piece.2 = [])
    (unfailing : ∀ state call, (context.access.make state call).failure = none)
    (indexed : catalogOf context.inventory = .ok catalog)
    (stocks : Stocks context.inventory (pieces.map Prod.fst)) :
    ∃ processed,
      (process context bench (.text (String.ofList (woven first pieces)))).1 = .ok processed ∧
        processed.executed = pieces.map Prod.fst ∧
        (callsOf context bench (.text (String.ofList (woven first pieces)))).map some =
          (pieces.map Prod.fst).map (fun command =>
            (command.call? catalog).map QuoteCall.succeeded) ∧
        (process context bench (.text (String.ofList (woven first pieces)))).2.sink =
          bench.sink := by
  by_cases empty : String.ofList (woven first pieces) = ""
  · have noPieces : pieces = [] := by
      by_contra nonempty
      exact woven_ne_nil nonempty plain (by simpa using congrArg String.toList empty)
    rw [empty, noPieces]
    exact ⟨⟨[], ""⟩, rfl, rfl, rfl, rfl⟩
  · obtain ⟨length, checked⟩ := checkAll_woven plain firstQuiet quiet bench.noting
    have commands := commands_zip length
    have plainCommands : ∀ command ∈ pieces.map Prod.fst, command.Plain := by
      intro command member
      obtain ⟨piece, pieceMember, rfl⟩ := List.mem_map.1 member
      exact plain piece pieceMember
    have executable := isExecutable_of_stocks plainCommands indexed stocks
    obtain ⟨last, finished, calls, sink⟩ :=
      runAll_noting_of_isExecutable unfailing executable bench.noting
    rw [← String.toList_ofList (l := woven first pieces)] at checked commands
    obtain ⟨result, after, ran, ended, state, sameSink⟩ :=
      @processText_of_catalog _ context.noting bench.noting _ catalog
        (by rw [checked]) indexed
    rw [checked] at ran
    simp only at ran
    rw [commands] at ran
    cases ran.symm.trans finished
    rw [process_noting, callsOf, process_text _ _ empty, state, ended]
    refine ⟨_, rfl, rfl, ?_, sameSink.trans sink⟩
    rw [calls, ← map_some_calls executable]
    rfl

/-- An inventory without a catalog is at fault before anything is executed. -/
theorem process_woven_of_catalog_error
    (plain : ∀ piece ∈ pieces, piece.1.Plain)
    (firstQuiet : Directive.scan first = [])
    (quiet : ∀ piece ∈ pieces, Directive.scan piece.2 = [])
    {fault : Fault} (unindexed : catalogOf context.inventory = .error fault)
    (nonempty : woven first pieces ≠ []) :
    (process context bench (.text (String.ofList (woven first pieces)))).1 = .error fault ∧
      callsOf context bench (.text (String.ofList (woven first pieces))) = [] ∧
      (process context bench (.text (String.ofList (woven first pieces)))).2.state =
        bench.state := by
  have text : String.ofList (woven first pieces) ≠ "" := by
    intro empty
    exact nonempty (by simpa using congrArg String.toList empty)
  have unindexedNoting : catalogOf context.noting.inventory = .error fault := unindexed
  have checked := (checkAll_woven plain firstQuiet quiet bench).2
  have checkedNoting := (checkAll_woven plain firstQuiet quiet bench.noting).2
  rw [← String.toList_ofList (l := woven first pieces)] at checked checkedNoting
  rw [callsOf, process_text _ _ text, process_text _ _ text,
    processText_of_catalog_error (by rw [checked]) unindexed,
    processText_of_catalog_error (by rw [checkedNoting]) unindexedNoting,
    checked, checkedNoting]
  exact ⟨rfl, rfl, rfl⟩

/-- Rendered commands between texts without directives are scanned and checked
to exactly these commands.  Processing executes each of them by one call, in
order, when no operation fails and the inventory has a catalog with every article
added.  An inventory without a catalog ends the processing before any call. -/
theorem process_woven
    (plain : ∀ piece ∈ pieces, piece.1.Plain)
    (firstQuiet : Directive.scan first = [])
    (quiet : ∀ piece ∈ pieces, Directive.scan piece.2 = []) :
    (∀ (σ : Type) (bench : Bench σ),
      (Directive.scan (woven first pieces)).length = (pieces.map Prod.fst).length ∧
        checkAll bench (Directive.scan (woven first pieces)) =
          (⟨(Directive.scan (woven first pieces)).zip ((pieces.map Prod.fst).map some), none⟩,
            bench)) ∧
    ∀ (σ : Type) (context : TurnContext σ) (bench : Bench σ),
      (∀ catalog,
        (∀ state call, (context.access.make state call).failure = none) →
        catalogOf context.inventory = .ok catalog →
        Stocks context.inventory (pieces.map Prod.fst) →
        ∃ processed,
          (process context bench (.text (String.ofList (woven first pieces)))).1 =
              .ok processed ∧
            processed.executed = pieces.map Prod.fst ∧
            (callsOf context bench (.text (String.ofList (woven first pieces)))).map some =
              (pieces.map Prod.fst).map (fun command =>
                (command.call? catalog).map QuoteCall.succeeded) ∧
            (process context bench (.text (String.ofList (woven first pieces)))).2.sink =
              bench.sink) ∧
      ∀ fault,
        catalogOf context.inventory = .error fault →
        woven first pieces ≠ [] →
        (process context bench (.text (String.ofList (woven first pieces)))).1 =
            .error fault ∧
          callsOf context bench (.text (String.ofList (woven first pieces))) = [] ∧
          (process context bench (.text (String.ofList (woven first pieces)))).2.state =
            bench.state := by
  refine ⟨?_, ?_⟩
  · intro σ bench
    exact checkAll_woven plain firstQuiet quiet bench
  · intro σ context bench
    refine ⟨?_, ?_⟩
    · intro catalog unfailing indexed stocks
      exact process_woven_of_catalog plain firstQuiet quiet unfailing indexed stocks
    · intro fault unindexed nonempty
      exact process_woven_of_catalog_error plain firstQuiet quiet unindexed nonempty

/-- Unfinished openings, a loose bracket and a tail around an addition and a
removal. -/
def brokenMarks : List Char × List (Command × List Char) :=
  ("Take [ACTION:ADD_TO_QUOTE, SKU:Z-9, ".toList,
    [(.add "A-1" (.number 20), ", QUANTITY:3] [ACTION:".toList),
      (.remove "B-2", "REMOVE_FROM_QUOTE, SKU:C-3] [".toList)])

theorem plain_brokenMarks : ∀ piece ∈ brokenMarks.2, piece.1.Plain := by
  intro piece member
  rcases List.mem_cons.1 member with rfl | member
  · exact .add (by decide) (by decide) (by decide)
  · cases List.mem_singleton.1 member
    exact .remove (by decide)

theorem scan_brokenMarks : Directive.scan brokenMarks.1 = [] := by
  decide +kernel

theorem quiet_brokenMarks : ∀ piece ∈ brokenMarks.2, Directive.scan piece.2 = [] := by
  intro piece member
  rcases List.mem_cons.1 member with rfl | member
  · decide +kernel
  · cases List.mem_singleton.1 member
    decide +kernel

theorem stocks_brokenMarks : Stocks oneArticle (brokenMarks.2.map Prod.fst) := by
  intro sku amount member
  rcases List.mem_cons.1 member with equal | member
  · cases equal
    exact ⟨_, List.mem_cons_self, by decide +kernel⟩
  · cases List.mem_singleton.1 member

theorem process_woven_brokenMarks :
    ∃ processed,
      (@process Unit ⟨oneArticle, .idle, .null⟩ ⟨(), .nowhere, []⟩
          (.text (String.ofList (woven brokenMarks.1 brokenMarks.2)))).1 = .ok processed ∧
        processed.executed = [.add "A-1" (.number 20), .remove "B-2"] := by
  obtain ⟨catalog, indexed⟩ := catalogOf_of_hasTextIds hasTextIds_oneArticle
  obtain ⟨processed, returned, executed, _⟩ :=
    ((process_woven plain_brokenMarks scan_brokenMarks quiet_brokenMarks).2 Unit
      ⟨oneArticle, .idle, .null⟩ ⟨(), .nowhere, []⟩).1 catalog
      QuoteAccess.idle_make_failure indexed stocks_brokenMarks
  exact ⟨processed, returned, executed⟩

/-- An inventory that has every article added does not suffice: a number in place of one stops a
removal. -/
theorem not_woven_executed_with_every_inventory :
    ¬ ∀ (inventory : Value) (bench : Bench Unit),
      Stocks inventory [.remove "B-2"] →
        ∃ processed,
          (process ⟨inventory, .idle, .null⟩ bench
              (.text (String.ofList (woven [] [(.remove "B-2", [])])))).1 = .ok processed ∧
            processed.executed = [.remove "B-2"] := by
  intro executed
  have stocks : Stocks (.int 5) [.remove "B-2"] := by
    intro sku amount member
    cases List.mem_singleton.1 member
  have plain : ∀ piece ∈ [(Command.remove "B-2", ([] : List Char))], piece.1.Plain := by
    rw [List.forall_mem_singleton]
    exact .remove (by decide)
  have quiet : ∀ piece ∈ [(Command.remove "B-2", ([] : List Char))],
      Directive.scan piece.2 = [] := by
    rw [List.forall_mem_singleton]
    rfl
  have unindexed : catalogOf (.int 5) = .error (.wrongType "'int' object is not iterable") :=
    rfl
  obtain ⟨processed, returned, -⟩ := executed (.int 5) ⟨(), .nowhere, []⟩ stocks
  have failed := (@process_woven_of_catalog_error Unit ⟨.int 5, .idle, .null⟩ ⟨(), .nowhere, []⟩
    [] _ plain rfl quiet _ unindexed (woven_ne_nil (List.cons_ne_nil _ _) plain)).1
  rw [failed] at returned
  cases returned

end Reply

end QuoteDesk
