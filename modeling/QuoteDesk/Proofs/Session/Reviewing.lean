import QuoteDesk.Proofs.Session.Judging
import QuoteDesk.Proofs.Session.Sale

/-!
# Settling a bill of materials

A bill of materials that waits is put on the quote when every line can be judged and the
inventory has a catalog.  The lines that keep the rules are then attempted in order up to
the first call that fails, one message is said about them, and nothing is left to review.
Otherwise the fault leaves the session as it was, with the bill of materials still waiting.
-/

namespace QuoteDesk

open Number Text

variable {σ : Type}

/-! ## Inventories with a catalog -/

-- As with a single id, brackets in the items may be nested at any depth.
/-- The items can be gone through, and each of them has an id that can be written or none. -/
def Value.Indexable (inventory : Value) : Prop :=
  ∃ items, inventory.members = .ok items ∧ ∀ item ∈ items, ∃ id, itemId item = .ok id

/-- The inventories that have a catalog are those that can be indexed. -/
theorem Reply.exists_catalogOf_iff {inventory : Value} :
    (∃ catalog, catalogOf inventory = .ok catalog) ↔ inventory.Indexable := by
  unfold catalogOf Value.Indexable
  cases inventory.members with
  | error fault =>
      refine iff_of_false ?_ ?_
      · rintro ⟨catalog, ⟨⟩⟩
      · rintro ⟨items, ⟨⟩, -⟩
  | ok items =>
      refine exists_mapError_iff.trans ?_
      rw [Catalog.ofItems_eq_foldlM, Catalog.exists_foldlM_iff]
      refine ⟨fun named => ⟨items, rfl, named⟩, ?_⟩
      rintro ⟨others, ⟨⟩, named⟩
      exact named

/-! ## Lines -/

namespace BomLine

/-- The article number is a text and the number of units is whole. -/
def Counted (line : BomLine) : Prop :=
  ∃ sku n, line.sku = .text sku ∧ line.quantity = .int n

/-- An article number with a number of units that is too long to be written. -/
def Overlong (line : BomLine) : Prop :=
  ∃ sku n, line.sku = .text sku ∧ IsSku sku ∧
    line.quantity = .int n ∧ 10 ^ digitLimit ≤ n.natAbs

/-- The call that a line asks for: it adds the first item with its article number, when
the line keeps the rules and there is one. -/
def call? (items : List Value) (line : BomLine) : Option QuoteCall :=
  match line.sku, line.quantity with
  | .text sku, .int n =>
      if IsSku sku ∧ minQuantity ≤ n ∧ n ≤ maxQuantity then
        (firstWithId items sku).map fun item => .add item (.number n)
      else none
  | _, _ => none

variable {line : BomLine} {sku : String} {n : Int}

theorem call?_eq
    (article : line.sku = .text sku) (quantity : line.quantity = .int n) (items : List Value) :
    line.call? items =
      if IsSku sku ∧ minQuantity ≤ n ∧ n ≤ maxQuantity then
        (firstWithId items sku).map fun item => .add item (.number n)
      else none := by
  simp only [call?, article, quantity]

theorem buildAdd_of_overlong (overlong : line.Overlong) :
    Command.buildAdd line.sku line.quantity = .error (.number .tooLongToWrite) := by
  obtain ⟨sku, n, article, isSku, quantity, large⟩ := overlong
  have beyond : 10 ^ 3 < n.natAbs :=
    Nat.lt_of_lt_of_le (Nat.pow_lt_pow_right (by decide) (by decide : 3 < digitLimit)) large
  have outside : ¬ (minQuantity ≤ n ∧ n ≤ maxQuantity) := by
    unfold minQuantity maxQuantity
    omega
  have long : digitLimit < decimalLength n.natAbs := by
    rw [← Nat.not_le, decimalLength_le_iff (by decide)]
    exact Nat.not_lt.mpr large
  have unwritable : refuseRange n = .number .tooLongToWrite := by
    rw [refuseRange, writeInteger, if_pos long]
  rw [article, quantity, Command.buildAdd, checkSku_of_isSku isSku, readQuantity, checkRange,
    if_neg outside, unwritable]
  rfl

/-- A line of a number that can be written becomes the command that asks for its call, or
it is refused and asks for none. -/
theorem exists_buildAdd
    {items : List Value} {catalog : Catalog}
    (finds : ∀ sku, catalog.find? sku = firstWithId items sku)
    (counted : line.Counted) (short : ¬ line.Overlong) :
    (∃ command, Command.buildAdd line.sku line.quantity = .ok command ∧
      command.call? catalog = line.call? items) ∨
    (∃ reason message, Command.buildAdd line.sku line.quantity =
      .error (.refusedCommand reason message)) ∧ line.call? items = none := by
  obtain ⟨sku, n, article, quantity⟩ := counted
  rw [call?_eq article quantity, article, quantity]
  by_cases isSku : IsSku sku
  · have writable : n.natAbs < 10 ^ digitLimit := by
      refine Nat.lt_of_not_le ?_
      intro large
      exact short ⟨sku, n, article, isSku, quantity, large⟩
    by_cases within : minQuantity ≤ n ∧ n ≤ maxQuantity
    · refine .inl ⟨_, buildAdd_of_fitting isSku within.1 within.2, ?_⟩
      rw [if_pos ⟨isSku, within⟩, Command.call?, finds]
    · refine .inr ⟨⟨_, _, buildAdd_of_outside isSku within writable⟩, ?_⟩
      rw [if_neg fun both => within both.2]
  · refine .inr ⟨⟨_, _, buildAdd_of_not_isSku isSku _⟩, ?_⟩
    rw [if_neg fun both => isSku both.1]

end BomLine

namespace Stage

section Lines

variable {line : BomLine} {bench : Bench σ} {before : List Command} {rest : List BomLine}

theorem bomCommands_of_built
    {command : Command} (built : Command.buildAdd line.sku line.quantity = .ok command) :
    bomCommands bench before (line :: rest) = bomCommands bench (command :: before) rest := by
  simp only [bomCommands, built]

theorem bomCommands_of_refused
    {reason : DropReason} {message : String}
    (refused : Command.buildAdd line.sku line.quantity = .error (.refusedCommand reason message)) :
    bomCommands bench before (line :: rest) =
      bomCommands (bench.report (lineRejection line reason message)) before rest := by
  simp only [bomCommands, refused]

theorem bomCommands_of_baffled
    {fault : IntegerFault}
    (baffled : Command.buildAdd line.sku line.quantity = .error (.number fault)) :
    bomCommands bench before (line :: rest) = (.error (.number fault), bench) := by
  simp only [bomCommands, baffled]

end Lines

/-- The commands of lines that can be judged ask for the calls of the lines. -/
theorem exists_bomCommands_of_counted
    {items : List Value} {catalog : Catalog}
    (finds : ∀ sku, catalog.find? sku = firstWithId items sku)
    {lines : List BomLine} (counted : ∀ line ∈ lines, line.Counted)
    (short : ∀ line ∈ lines, ¬ line.Overlong) (bench : Bench σ) (before : List Command) :
    ∃ commands reported,
      bomCommands bench before lines = (.ok (before.reverse ++ commands), bench.reportAll reported) ∧
        commands.filterMap (Command.call? catalog) = lines.filterMap (BomLine.call? items) := by
  induction lines generalizing bench before with
  | nil =>
      refine ⟨[], [], ?_, rfl⟩
      rw [bomCommands, List.append_nil, Bench.reportAll_nil]
  | cons line rest inductionHypothesis =>
      obtain ⟨lineCounted, restCounted⟩ := List.forall_mem_cons.mp counted
      obtain ⟨lineShort, restShort⟩ := List.forall_mem_cons.mp short
      rcases BomLine.exists_buildAdd finds lineCounted lineShort with
        ⟨command, built, asks⟩ | ⟨⟨reason, message, refused⟩, asksNothing⟩
      · obtain ⟨commands, reported, work, calls⟩ :=
          inductionHypothesis restCounted restShort bench (command :: before)
        refine ⟨command :: commands, reported, ?_, ?_⟩
        · rw [bomCommands_of_built built, work, List.reverse_cons, List.append_assoc,
            List.singleton_append]
        · rw [List.filterMap_cons, List.filterMap_cons, asks, calls]
      · obtain ⟨commands, reported, work, calls⟩ :=
          inductionHypothesis restCounted restShort (bench.report (lineRejection line reason message))
            before
        refine ⟨commands, lineRejection line reason message :: reported, ?_, ?_⟩
        · rw [bomCommands_of_refused refused, work, Bench.reportAll_cons]
        · rw [List.filterMap_cons_none asksNothing, calls]

/-- A line whose quantity cannot be written ends the work. -/
theorem bomCommands_of_overlong
    {lines : List BomLine} (counted : ∀ line ∈ lines, line.Counted)
    (overlong : ∃ line ∈ lines, line.Overlong) (bench : Bench σ) (before : List Command) :
    ∃ after, bomCommands bench before lines = (.error (.number .tooLongToWrite), after) := by
  induction lines generalizing bench before with
  | nil =>
      obtain ⟨line, ⟨⟩, -⟩ := overlong
  | cons line rest inductionHypothesis =>
      obtain ⟨lineCounted, restCounted⟩ := List.forall_mem_cons.mp counted
      by_cases long : line.Overlong
      · exact ⟨bench, bomCommands_of_baffled (BomLine.buildAdd_of_overlong long)⟩
      · have among : ∃ other ∈ rest, other.Overlong := by
          obtain ⟨other, member, otherLong⟩ := overlong
          rcases List.mem_cons.mp member with rfl | later
          · exact absurd otherLong long
          · exact ⟨other, later, otherLong⟩
        have finds : ∀ sku, Catalog.find? [] sku = firstWithId [] sku := fun _ => rfl
        rcases BomLine.exists_buildAdd finds lineCounted long with
          ⟨command, built, -⟩ | ⟨⟨reason, message, refused⟩, -⟩
        · rw [bomCommands_of_built built]
          exact inductionHypothesis restCounted among bench (command :: before)
        · rw [bomCommands_of_refused refused]
          exact inductionHypothesis restCounted among _ before

end Stage

/-! ## How a review ends -/

/-- What is said about the calls of a bill of materials: their number, or an apology when
one of them failed. -/
def Session.bomAnswer (calls : List NotedCall) : ChatMessage :=
  if ∀ noted ∈ calls, noted.failure = none then
    ⟨.assistant, Analysis.confirmation calls.length, [("bom_added", .int calls.length)]⟩
  else ⟨.assistant, apology, [("failed", .bool true)]⟩

/-- A bill of materials is settled: the wanted calls are attempted, one message is said
about them, and the session is back in chat with nothing to review. -/
structure Occurrence.Settles
    (observer : Observer σ) (access : QuoteAccess σ) (wanted : List QuoteCall)
    (review : Occurrence σ) : Prop where
  calls : review.calls observer = access.attempts review.before.bench.state wanted
  answers : review.outcome = .answered (Session.bomAnswer (review.calls observer))
  history : review.after.session.history =
    review.before.session.history ++ [Session.bomAnswer (review.calls observer)]
  mode : review.after.session.mode = .chat
  pending : review.after.session.pending = none

/-- A review that a fault ends before any call; the session stays as it was. -/
structure Occurrence.Escapes (observer : Observer σ) (fault : Fault) (review : Occurrence σ) :
    Prop where
  raises : review.outcome = .refused fault
  calls : review.calls observer = []
  session : review.after.session = review.before.session

namespace Stage

variable {stage : Stage σ} {context : TurnContext σ} {bom : Bom} {commands : List Command}
  {bench : Bench σ} {catalog : Catalog}

/-- Executing commands ends with the message about their calls, whether one fails or not. -/
theorem executeBom_settles
    (indexed : Reply.catalogOf context.inventory = .ok catalog)
    (observer : Observer σ) (stage : Stage σ) (bom : Bom) (commands : List Command) :
    let message :=
      Session.bomAnswer (Command.callsOf context.access catalog stage.bench commands)
    let after := (stage.executeBom observer context catalog bom commands).2.session
    (stage.executeBom observer context catalog bom commands).1 = .answered message ∧
      after.history = stage.session.history ++ [message] ∧
      after.mode = .chat ∧ after.pending = none := by
  intro message after
  rcases execution : Command.execute context.access catalog stage.bench commands with
    ⟨fault | executed, bench⟩
  · obtain ⟨_, _, _, call, _, _, made⟩ :=
      Command.callsOf_of_error (congrArg Prod.fst execution)
    have failed : ¬ ∀ noted ∈ Command.callsOf context.access catalog stage.bench commands,
        noted.failure = none := by
      intro succeeded
      have last := succeeded ⟨call, some fault⟩ (by simp [made])
      cases last
    have said : message = ⟨.assistant, Session.apology, [("failed", .bool true)]⟩ := if_neg failed
    have leads := (((Leads.atBench stage bench).record
      (.error Session.logger s!"Adding BOM to quote failed: {fault.message}")).append
        message).setMode observer .chat
    have reached : after = (stage.session.saying message).withMode .chat := by
      rw [← leads.reaches, said]
      simp only [after, executeBom, execution]
    rw [reached]
    refine ⟨?_, rfl, rfl, rfl⟩
    simp only [executeBom, execution, said]
  · obtain ⟨kept, made⟩ := Command.callsOf_of_ok (congrArg Prod.fst execution)
    have succeeded : ∀ noted ∈ Command.callsOf context.access catalog stage.bench commands,
        noted.failure = none := by
      rw [made]
      intro noted member
      obtain ⟨call, -, rfl⟩ := List.mem_map.mp member
      rfl
    have count : (Command.callsOf context.access catalog stage.bench commands).length =
        executed.length := by
      rw [made, List.length_map, kept, (Command.makes_of_executable indexed commands).length_eq]
    have said : message = ⟨.assistant, Analysis.confirmation executed.length,
        [("bom_added", .int executed.length)]⟩ := by
      rw [← count]
      exact if_pos succeeded
    have leads := (((Leads.atBench stage bench).setMode observer .chat).record
      (.info Session.logger
        s!"Added {executed.length} of {bom.lines.length} BOM line(s) to the quote")).append message
    have reached : after = (stage.session.withMode .chat).saying message := by
      rw [← leads.reaches, said]
      simp only [after, executeBom, execution]
    rw [reached]
    refine ⟨?_, rfl, rfl, rfl⟩
    simp only [executeBom, execution, said]

theorem addBom_of_overlong
    (idle : stage.session.turn = none) (waiting : stage.session.pending = some bom)
    (counted : ∀ line ∈ bom.lines, line.Counted) (overlong : ∃ line ∈ bom.lines, line.Overlong)
    (observer : Observer σ) (context : TurnContext σ) :
    (stage.occurrence observer (.addBom context)).Escapes observer (.number .tooLongToWrite) := by
  obtain ⟨after, work⟩ := bomCommands_of_overlong counted overlong stage.bench []
  have performed : stage.perform observer (.addBom context) =
      (.refused (.number .tooLongToWrite), { stage with bench := after }) := by
    simp only [perform, addBom, Session.isBusy, idle, waiting, work, Option.isSome_none,
      Bool.false_eq_true, if_false]
  refine ⟨congrArg Prod.fst performed, ?_, congrArg (·.2.session) performed⟩
  rw [Occurrence.calls_eq]
  simp only [occurrence, callsOf, reviewCalls, idle, waiting, work]

theorem addBom_of_unindexed
    {fault : Fault} (idle : stage.session.turn = none) (waiting : stage.session.pending = some bom)
    (counted : ∀ line ∈ bom.lines, line.Counted) (short : ∀ line ∈ bom.lines, ¬ line.Overlong)
    (unindexed : Reply.catalogOf context.inventory = .error fault) (observer : Observer σ) :
    (stage.occurrence observer (.addBom context)).Escapes observer fault := by
  have finds : ∀ sku, Catalog.find? [] sku = firstWithId [] sku := fun _ => rfl
  obtain ⟨commands, reported, work, -⟩ :=
    exists_bomCommands_of_counted finds counted short stage.bench []
  have performed : stage.perform observer (.addBom context) =
      (.refused fault, { stage with bench := stage.bench.reportAll reported }) := by
    simp only [perform, addBom, Session.isBusy, idle, waiting, work, unindexed, Option.isSome_none,
      Bool.false_eq_true, if_false]
  refine ⟨congrArg Prod.fst performed, ?_, congrArg (·.2.session) performed⟩
  rw [Occurrence.calls_eq]
  simp only [occurrence, callsOf, reviewCalls, idle, waiting, work, unindexed]

/-- A review with short quantities and an inventory that can be indexed settles. -/
theorem addBom_of_indexable
    (idle : stage.session.turn = none) (waiting : stage.session.pending = some bom)
    (counted : ∀ line ∈ bom.lines, line.Counted) (short : ∀ line ∈ bom.lines, ¬ line.Overlong)
    (indexable : context.inventory.Indexable) (observer : Observer σ) :
    (stage.occurrence observer (.addBom context)).Settles observer context.access
      (bom.lines.filterMap (BomLine.call? (Reply.itemsOf context.inventory))) := by
  obtain ⟨catalog, indexed⟩ := Reply.exists_catalogOf_iff.mpr indexable
  obtain ⟨commands, reported, work, asks⟩ :=
    exists_bomCommands_of_counted (Reply.find?_catalogOf indexed) counted short stage.bench []
  rw [List.reverse_nil, List.nil_append] at work
  have performed : stage.perform observer (.addBom context) =
      { stage with bench := stage.bench.reportAll reported }.executeBom observer context catalog bom
        commands := by
    simp only [perform, addBom, Session.isBusy, idle, waiting, work, indexed, Option.isSome_none,
      Bool.false_eq_true, if_false]
  have made : (stage.occurrence observer (.addBom context)).calls observer =
      Command.callsOf context.access catalog (stage.bench.reportAll reported) commands := by
    rw [Occurrence.calls_eq]
    exact callsOf_addBom idle waiting work indexed
  obtain ⟨answered, history, mode, pending⟩ := executeBom_settles indexed observer
    { stage with bench := stage.bench.reportAll reported } bom commands
  rw [← performed, ← made] at answered history
  rw [← performed] at mode pending
  refine ⟨?_, answered, history, mode, pending⟩
  rw [made, Command.callsOf_eq_attempts, asks, Bench.reportAll_state]
  rfl

/-- A bill of materials whose lines are counted is settled exactly when no line has a number
of units that is too long and the inventory has a catalog.  Otherwise the fault of the first
such line, or else of the inventory, escapes before any call, and everything still waits. -/
theorem addBom_settles_iff
    (idle : stage.session.turn = none) (waiting : stage.session.pending = some bom)
    (counted : ∀ line ∈ bom.lines, line.Counted)
    (observer : Observer σ) (context : TurnContext σ) :
    let review := stage.occurrence observer (.addBom context)
    let wanted := bom.lines.filterMap (BomLine.call? (Reply.itemsOf context.inventory))
    (review.Settles observer context.access wanted ↔
        (∀ line ∈ bom.lines, ¬ line.Overlong) ∧ context.inventory.Indexable) ∧
      ((∃ line ∈ bom.lines, line.Overlong) →
        review.Escapes observer (.number .tooLongToWrite)) ∧
      ∀ fault, (∀ line ∈ bom.lines, ¬ line.Overlong) →
        Reply.catalogOf context.inventory = .error fault → review.Escapes observer fault := by
  intro review wanted
  have ofLong : (∃ line ∈ bom.lines, line.Overlong) →
      review.Escapes observer (.number .tooLongToWrite) :=
    fun overlong => addBom_of_overlong idle waiting counted overlong observer context
  have ofInventory : ∀ fault, (∀ line ∈ bom.lines, ¬ line.Overlong) →
      Reply.catalogOf context.inventory = .error fault → review.Escapes observer fault :=
    fun fault short unindexed => addBom_of_unindexed idle waiting counted short unindexed observer
  have notBoth : ∀ fault, review.Escapes observer fault →
      ¬ review.Settles observer context.access wanted := by
    intro fault escapes settles
    cases escapes.raises.symm.trans settles.answers
  refine ⟨⟨?_, ?_⟩, ofLong, ofInventory⟩
  · intro settles
    have short : ∀ line ∈ bom.lines, ¬ line.Overlong := by
      intro line member long
      exact notBoth _ (ofLong ⟨line, member, long⟩) settles
    refine ⟨short, ?_⟩
    cases indexed : Reply.catalogOf context.inventory with
    | error fault => exact absurd settles (notBoth fault (ofInventory fault short indexed))
    | ok catalog => exact Reply.exists_catalogOf_iff.mp ⟨catalog, indexed⟩
  · rintro ⟨short, indexable⟩
    exact addBom_of_indexable idle waiting counted short indexable observer

/-- Lines that order some units of one article. -/
def doorBom (units : List Int) : Bom :=
  ⟨units.map fun n => ⟨.text "A-1", .text "Door", .int n, .null, .null⟩, .null⟩

/-- A session in which a bill of materials waits. -/
def doorReview (units : List Int) : Stage Desk :=
  ofSession ⟨.standard, .bomPreview, [], some (doorBom units), none, 0⟩ ⟨.empty, .nowhere, []⟩

/-- A quote that refuses the article. -/
def closedShop : TurnContext Desk := ⟨Reply.oneArticle, Desk.access ⟨["A-1"], [], true⟩, .null⟩

theorem counted_doorBom (units : List Int) : ∀ line ∈ (doorBom units).lines, line.Counted := by
  intro line member
  obtain ⟨n, -, rfl⟩ := List.mem_map.mp member
  exact ⟨_, n, rfl, rfl⟩

theorem short_doorBom {units : List Int} (small : ∀ n ∈ units, n.natAbs < 10 ^ 3) :
    ∀ line ∈ (doorBom units).lines, ¬ line.Overlong := by
  rintro line member ⟨sku, n, -, -, quantity, large⟩
  obtain ⟨m, among, rfl⟩ := List.mem_map.mp member
  cases quantity
  have long : 10 ^ 3 < 10 ^ digitLimit := Nat.pow_lt_pow_right (by decide) (by decide)
  exact absurd (small n among) (Nat.not_lt.mpr (long.le.trans large))

theorem indexable_oneArticle : Reply.oneArticle.Indexable :=
  Reply.exists_catalogOf_iff.mp (Reply.catalogOf_of_hasTextIds Reply.hasTextIds_oneArticle)

/-- Of three lines the first is dropped, the second fails and the third is not attempted. -/
theorem settles_doorReview :
    let review := (doorReview [0, 2, 3]).occurrence .none (.addBom closedShop)
    review.outcome = .answered ⟨.assistant, Session.apology, [("failed", .bool true)]⟩ ∧
      review.after.session.mode = .chat ∧ review.after.session.pending = none ∧
      (review.calls .none).map (·.failure.isSome) = [true] := by
  intro review
  have idle : (doorReview [0, 2, 3]).session.turn = none := rfl
  have waiting : (doorReview [0, 2, 3]).session.pending = some (doorBom [0, 2, 3]) := rfl
  have settles := (addBom_settles_iff idle waiting
    (counted_doorBom [0, 2, 3]) .none closedShop).1.mpr
      ⟨short_doorBom (by decide), indexable_oneArticle⟩
  have calls : (review.calls .none).map (·.failure.isSome) = [true] := by
    rw [settles.calls]
    rfl
  have failed : ¬ ∀ noted ∈ review.calls .none, noted.failure = none := by
    intro succeeded
    have unfailing : ∀ failed ∈ (review.calls .none).map (·.failure.isSome), failed = false := by
      intro failed member
      obtain ⟨noted, among, rfl⟩ := List.mem_map.mp member
      rw [succeeded noted among]
      rfl
    rw [calls] at unfailing
    exact absurd (unfailing true List.mem_cons_self) Bool.true_eq_false.mp
  have answered := settles.answers
  rw [Session.bomAnswer, if_neg failed] at answered
  exact ⟨answered, settles.mode, settles.pending, calls⟩

theorem overlong_doorBom {n : Nat} (large : 10 ^ digitLimit ≤ n) :
    ∃ line ∈ (doorBom [(n : Int)]).lines, line.Overlong :=
  ⟨_, List.mem_cons_self, "A-1", n, rfl, by decide, rfl, large⟩

/-- A number of units that is too long to be written leaves the bill of materials waiting:
nothing is said and nothing is dropped. -/
theorem overlong_line_left_waiting :
    let bom := doorBom [((10 ^ digitLimit : Nat) : Int)]
    let review := (doorReview [((10 ^ digitLimit : Nat) : Int)]).occurrence .none
      (.addBom closedShop)
    review.before.session.turn = none ∧ review.before.session.pending = some bom ∧
      (∀ line ∈ bom.lines, line.Counted) ∧
      review.outcome = .refused (.number .tooLongToWrite) ∧
      review.after.session.mode = .bomPreview ∧ review.after.session.pending = some bom := by
  intro bom review
  have escapes : review.Escapes .none (.number .tooLongToWrite) :=
    addBom_of_overlong rfl rfl (counted_doorBom _) (overlong_doorBom (Nat.le_refl _)) .none
      closedShop
  refine ⟨rfl, rfl, counted_doorBom _, escapes.raises, ?_, ?_⟩
  · rw [escapes.session]
    rfl
  · rw [escapes.session]
    rfl

end Stage

end QuoteDesk
