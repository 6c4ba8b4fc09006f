import QuoteDesk.Proofs.Analysis.Fates
import QuoteDesk.Proofs.Analysis.Report
import QuoteDesk.Proofs.Reply.Faults
import QuoteDesk.Proofs.Session.Watching

/-!
# From a payload to the quote

A building turn that is answered with the analysis of a payload leaves its bill of
materials for review.  Putting it on the quote executes the orders of the payload that
keep the rules and whose articles are there, in their order, and reports all others.
-/

namespace QuoteDesk

variable {σ : Type}

namespace Stage

variable {stage : Stage σ} {observer : Observer σ}

/-! ## The review begins -/

/-- An analysis that can be shown and recommends something is left for review. -/
theorem offers_of_report
    {turn : Turn σ} (flying : stage.session.turn = some turn) (building : turn.building = true)
    {analysis : Analysis} {text : String} (shown : analysis.report = .ok text)
    (stocked : analysis.bom.lines ≠ []) (observer : Observer σ) :
    let done := (stage.perform observer (.answer (.analysis analysis))).2
    done.session.turn = none ∧ done.session.pending = some analysis.bom := by
  intro done
  let message := turnMessage turn text [("bom_lines", .int analysis.bom.lines.length)]
  have finished :
      done = (((stage.append message).review observer turn analysis.bom).complete
        observer turn message).2 := by
    simp only [done, perform, finish, flying, finishTurn, if_pos building, finishBuilding, shown]
    rfl
  have leads := (((Leads.refl stage).append message).review observer turn analysis.bom).publish
    observer (.turnCompleted turn.number message.content)
  have reached : done.session =
      ((stage.session.saying message).reviewing analysis.bom).landed := by
    rw [finished]
    exact leads.land.reaches
  have notBlank : ¬ analysis.bom.lines.isEmpty = true :=
    fun blank => stocked (List.isEmpty_iff.mp blank)
  rw [reached, Session.reviewing, if_neg notBlank]
  exact ⟨rfl, rfl⟩

/-! ## Putting a bill of materials on the quote -/

theorem sink_setMode (observer : Observer σ) (mode : SessionMode) (stage : Stage σ) :
    (stage.setMode observer mode).bench.sink = stage.bench.sink := by
  unfold setMode
  by_cases unchanged : stage.session.mode = mode
  · rw [if_pos unchanged]
  · rw [if_neg unchanged]
    rfl

section Adding

variable {context : TurnContext σ} {bom : Bom} {commands : List Command} {bench : Bench σ}
  {catalog : Catalog}

theorem callsOf_addBom
    (idle : stage.session.turn = none) (waiting : stage.session.pending = some bom)
    (work : bomCommands stage.bench [] bom.lines = (.ok commands, bench))
    (indexed : Reply.catalogOf context.inventory = .ok catalog) :
    stage.callsOf (.addBom context) = Command.callsOf context.access catalog bench commands := by
  simp only [callsOf, reviewCalls, idle, waiting, work, indexed]

/-- Commands that all succeed are confirmed, and nothing is left to review. -/
theorem addBom_of_ok
    {executed : List Command}
    (idle : stage.session.turn = none) (waiting : stage.session.pending = some bom)
    (work : bomCommands stage.bench [] bom.lines = (.ok commands, bench))
    (indexed : Reply.catalogOf context.inventory = .ok catalog)
    (ended : (Command.execute context.access catalog bench commands).1 = .ok executed)
    (observer : Observer σ) :
    let sold := stage.perform observer (.addBom context)
    sold.1 = .answered ⟨.assistant, Analysis.confirmation executed.length,
        [("bom_added", .int executed.length)]⟩ ∧
      sold.2.session.turn = none ∧ sold.2.session.pending = none ∧
      sold.2.bench.sink = (Command.execute context.access catalog bench commands).2.sink := by
  intro sold
  have performed : sold =
      { stage with bench := bench }.executeBom observer context catalog bom commands := by
    simp only [sold, perform, addBom, Session.isBusy, idle, waiting, work, indexed,
      Option.isSome_none, Bool.false_eq_true, if_false]
  rcases execution : Command.execute context.access catalog bench commands with ⟨result, after⟩
  rw [execution] at ended
  subst ended
  let chatting := { stage with bench := after }.setMode observer .chat
  have reached : chatting.session = stage.session.withMode .chat :=
    ((Leads.atBench stage after).setMode observer .chat).reaches
  have turn : chatting.session.turn = none := by
    rw [reached]
    exact idle
  have pending : chatting.session.pending = none := by
    rw [reached]
    rfl
  have sink : chatting.bench.sink = after.sink := sink_setMode observer .chat _
  simp only [performed, executeBom, execution]
  exact ⟨trivial, turn, pending, sink⟩

/-- Without a bill of materials to review there is nothing to put on the quote. -/
theorem addBom_of_nothing
    (idle : stage.session.turn = none) (nothing : stage.session.pending = none)
    (observer : Observer σ) (context : TurnContext σ) :
    stage.perform observer (.addBom context) =
        (.refused (.session (.plain .noPendingBom)), stage) ∧
      stage.callsOf (.addBom context) = [] := by
  constructor
  · simp only [perform, addBom, Session.isBusy, idle, nothing, Option.isSome_none,
      Bool.false_eq_true, if_false]
  · simp only [callsOf, reviewCalls, idle, nothing]

end Adding

end Stage

namespace Command

theorem exists_execute_of_unfailing
    {access : QuoteAccess σ} (unfailing : ∀ state call, (access.make state call).failure = none)
    (catalog : Catalog) (bench : Bench σ) (commands : List Command) :
    ∃ executed, (execute access catalog bench commands).1 = .ok executed := by
  obtain ⟨executed, after, ran⟩ := runAll_of_unfailing unfailing catalog bench [] commands
  obtain ⟨result, _, _⟩ := execute_eq_runAll access catalog bench commands
  rw [ran] at result
  exact ⟨executed, result⟩

/-- Commands that were executed to their end reported the articles that are not there. -/
theorem sink_of_ok
    {access : QuoteAccess σ} {catalog : Catalog} {bench : Bench σ}
    {commands executed : List Command}
    (ended : (execute access catalog bench commands).1 = .ok executed) :
    (execute access catalog bench commands).2.sink =
      bench.sink.reportAll (commands.filterMap (miss? catalog)) := by
  rw [execute_noting] at ended ⊢
  obtain ⟨result, _, sink⟩ := execute_eq_runAll access.noting catalog bench.noting commands
  obtain ⟨_, _, reported⟩ :=
    runAll_noting_ok (Prod.ext (result.symm.trans ended) rfl : runAll access.noting catalog
      bench.noting [] commands = (.ok executed, _))
  exact sink.trans reported

end Command

/-! ## Sales -/

open Directive (Fate)

/-- A bill of materials is put on the quote as the fates of its orders say: the calls
are made in order, their number is confirmed, the refusals and then the articles that
are not there are reported, and there is nothing left to put on a quote. -/
structure Occurrence.Sells
    (observer : Observer σ) (fates : List Fate) (sale : Occurrence σ) : Prop where
  calls : sale.calls observer = (fates.filterMap Fate.call?).map QuoteCall.succeeded
  confirms : sale.outcome =
    .answered ⟨.assistant, Analysis.confirmation (fates.filterMap Fate.call?).length,
      [("bom_added", .int (fates.filterMap Fate.call?).length)]⟩
  reports : sale.after.bench.sink = sale.before.bench.sink.reportAll
    (fates.filterMap Fate.refusal? ++ fates.filterMap Fate.miss?)
  closes : ∀ again : TurnContext σ,
    let second := sale.after.occurrence observer (.addBom again)
    second.outcome = .refused (.session (.plain .noPendingBom)) ∧ second.after = sale.after ∧
      second.calls observer = []

namespace Stage

variable {stage : Stage σ} {context : TurnContext σ}

/-- The lines of a waiting bill of materials meet their fates when it is put on the quote. -/
theorem exists_sale
    {lines : List Value} {bom : Bom}
    (converts : List.Forall₂ BomLine.Converts lines bom.lines)
    (idle : stage.session.turn = none) (waiting : stage.session.pending = some bom)
    (textIds : HasTextIds context.inventory)
    (unfailing : ∀ state call, (context.access.make state call).failure = none)
    (observer : Observer σ) :
    ∃ fates, List.Forall₂ (Value.OrderMeets (Reply.itemsOf context.inventory)) lines fates ∧
      (stage.occurrence observer (.addBom context)).Sells observer fates := by
  obtain ⟨catalog, indexed⟩ := Reply.catalogOf_of_hasTextIds textIds
  obtain ⟨fates, commands, meet, work, misses, calls⟩ :=
    exists_bomCommands (Reply.find?_catalogOf indexed) converts stage.bench []
  rw [List.reverse_nil, List.nil_append] at work
  let bench := stage.bench.reportAll (fates.filterMap Fate.refusal?)
  obtain ⟨executed, ended⟩ :=
    Command.exists_execute_of_unfailing unfailing catalog bench commands
  obtain ⟨kept, made⟩ := Command.callsOf_of_ok ended
  obtain ⟨answered, turn, pending, sink⟩ :=
    addBom_of_ok idle waiting work indexed ended observer
  have count : executed.length = (fates.filterMap Fate.call?).length := by
    rw [kept, calls]
    exact (Command.makes_of_executable indexed commands).length_eq
  have reported : bench.sink = stage.bench.sink.reportAll (fates.filterMap Fate.refusal?) :=
    stage.bench.reportAll_sink _
  refine ⟨fates, meet, ?_, ?_, ?_, ?_⟩
  · rw [Occurrence.calls_eq, calls]
    exact (callsOf_addBom idle waiting work indexed).trans made
  · rw [← count]
    exact answered
  · have missed := Command.sink_of_ok ended
    rw [reported] at missed
    rw [DiagnosticSink.reportAll_append, misses]
    exact sink.trans missed
  · intro again second
    obtain ⟨refused, silent⟩ := addBom_of_nothing turn pending observer again
    have outcome := congrArg Prod.fst refused
    have unchanged := congrArg Prod.snd refused
    refine ⟨outcome, unchanged, ?_⟩
    rw [Occurrence.calls_eq]
    exact silent

/-- Whatever payload was read: a building turn that is answered with its analysis
leaves the bill of materials for review.  Whenever it still waits later and no turn is
in flight, each line of the payload has exactly one fate, and putting the bill of
materials on the quote does with all lines what their fates say. -/
theorem run_sells_orders
    {payload : Value} (textual : (∃ s, payload = .text s) ∨ ∃ data, payload = .bytes data)
    {analysis : Analysis} {log : List LogRecord}
    (given : Analysis.read payload = .ok (analysis, log))
    (ordered : Analysis.linesOf payload ≠ [])
    {turn : Turn σ} (flying : stage.session.turn = some turn) (building : turn.building = true)
    (textIds : HasTextIds context.inventory)
    (unfailing : ∀ state call, (context.access.make state call).failure = none)
    (observer : Observer σ) (later : List (SessionAct σ)) :
    let items := Reply.itemsOf context.inventory
    let lines := Analysis.linesOf payload
    let done := (stage.perform observer (.answer (.analysis analysis))).2
    let ready := done.run observer later
    (done.session.turn = none ∧ done.session.pending = some analysis.bom) ∧
    (ready.session.turn = none → ready.session.pending = some analysis.bom →
      (∀ line ∈ lines, ∃! fate, line.OrderMeets items fate) ∧
      ∃ fates, List.Forall₂ (Value.OrderMeets items) lines fates ∧
        (ready.occurrence observer (.addBom context)).Sells observer fates ∧
        lines.length = (fates.filterMap Fate.call?).length +
          (fates.filterMap Fate.refusal? ++ fates.filterMap Fate.miss?).length) := by
  intro items lines done ready
  have converts : analysis.Converts lines :=
    Analysis.converts_of_read Validator.lawful_draft7 textual given
  obtain ⟨text, shown⟩ := converts.exists_report
  have stocked : analysis.bom.lines ≠ [] := by
    intro none
    have length := converts.lines.length_eq
    rw [none, List.length_nil, List.length_eq_zero_iff] at length
    exact ordered length
  refine ⟨offers_of_report flying building shown stocked observer, ?_⟩
  intro idle waiting
  obtain ⟨fates, meet, sells⟩ :=
    exists_sale converts.lines idle waiting textIds unfailing observer
  refine ⟨?_, fates, meet, sells, ?_⟩
  · have alone : List.Forall₂ (fun line fate =>
        (∃! fate, line.OrderMeets items fate) ∧ line.OrderMeets items fate) lines fates := by
      refine meet.imp ?_
      rintro line fate ⟨sku, n, orders, same⟩
      exact ⟨orders.existsUnique_fate items, sku, n, orders, same⟩
    exact ((List.forall₂_and_left _ _).mp alone).1
  · rw [meet.length_eq, Directive.fates_length, Directive.length_executed]

/-- A text that orders one article, with blanks around it and its units written with a
fraction, and something that is no article. -/
def twoOrders : Value :=
  .text ("\x7b\"bom\":\x7b\"lineItems\":[\x7b\"sku\":\" A-1\",\"quantity\":2.0\x7d," ++
    "\x7b\"sku\":\"a\",\"quantity\":1\x7d]\x7d\x7d")

def shop : TurnContext Unit := ⟨Reply.oneArticle, .idle, .null⟩

/-- A building turn that waits for its analysis. -/
def analysing : Stage Unit :=
  ofSession ⟨.standard, .building, [], none, some ⟨1, "I need a door", true, shop⟩, 1⟩
    ⟨(), .nowhere, []⟩

/-- Both orders are accounted for. -/
theorem run_sells_twoOrders :
    ∃ analysis log fates,
      Analysis.read twoOrders = .ok (analysis, log) ∧
        let done := (analysing.perform .none (.answer (.analysis analysis))).2
        List.Forall₂ (Value.OrderMeets [.dict [("id", .text "A-1")]])
            (Analysis.linesOf twoOrders) fates ∧
          (done.occurrence .none (.addBom shop)).Sells .none fates ∧
          (fates.filterMap Fate.call?).length +
            (fates.filterMap Fate.refusal? ++ fates.filterMap Fate.miss?).length = 2 := by
  have two : (Analysis.linesOf twoOrders).length = 2 := by decide +kernel
  have ordered : Analysis.linesOf twoOrders ≠ [] := by
    intro none
    rw [none] at two
    cases two
  have accepted : (Analysis.read twoOrders).toOption.isSome = true := by decide +kernel
  cases given : Analysis.read twoOrders with
  | error fault =>
      rw [given] at accepted
      cases accepted
  | ok result =>
      obtain ⟨analysis, log⟩ := result
      obtain ⟨⟨idle, waiting⟩, sale⟩ :=
        @run_sells_orders Unit analysing shop twoOrders (.inl ⟨_, rfl⟩) analysis log given ordered
          _ rfl rfl Reply.hasTextIds_oneArticle QuoteAccess.idle_make_failure .none []
      obtain ⟨_, fates, meet, sells, count⟩ := sale idle waiting
      exact ⟨analysis, log, fates, rfl, meet, sells, count.symm.trans two⟩

end Stage

end QuoteDesk
