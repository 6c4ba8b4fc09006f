import Mathlib.Logic.ExistsUnique
import QuoteDesk.Proofs.Catalog.Lookup
import QuoteDesk.Proofs.Reply.Processing

/-!
# Every directive has one fate

A directive of a reply is refused by the rules, or it misses the catalog, or it
is executed by one call.  The rules and the items of the inventory decide which
of the three it is; what the other directives of the text are does not matter.
-/

namespace QuoteDesk

namespace Directive

/-- What becomes of a directive. -/
inductive Fate where
  /-- It breaks a rule. -/
  | refused (diagnostic : Diagnostic)
  /-- It adds an article that is not there. -/
  | missed (diagnostic : Diagnostic)
  /-- Its command is executed by a call. -/
  | executed (command : Command) (call : QuoteCall)

namespace Fate

/-- The diagnostic of a refusal. -/
def refusal? : Fate → Option Diagnostic
  | .refused diagnostic => some diagnostic
  | _ => none

def miss? : Fate → Option Diagnostic
  | .missed diagnostic => some diagnostic
  | _ => none

def command? : Fate → Option Command
  | .executed command _ => some command
  | _ => none

def call? : Fate → Option QuoteCall
  | .executed _ call => some call
  | _ => none

end Fate

/-- A directive meets its fate among some items: the verdict of the rules and
the first item with its article number decide. -/
inductive Meets (items : List Value) (directive : Directive) : Fate → Prop
  | refused {diagnostic : Diagnostic} :
      Judged directive (.refused diagnostic) →
      Meets items directive (.refused diagnostic)
  | missed {sku : String} {n : Nat} :
      Judged directive (.accepted (.add sku (.number n))) →
      firstWithId items sku = none →
      Meets items directive (.missed (Command.lookupMiss sku (.number n)))
  | added {sku : String} {n : Nat} {item : Value} :
      Judged directive (.accepted (.add sku (.number n))) →
      firstWithId items sku = some item →
      Meets items directive
        (.executed (.add sku (.number n)) (.add item (.number n)))
  | removed {sku : String} :
      Judged directive (.accepted (.remove sku)) →
      Meets items directive (.executed (.remove sku) (.remove sku))

variable {items : List Value} {directive : Directive} {fate other : Fate}

theorem Meets.unique
    (first : directive.Meets items fate) (second : directive.Meets items other) :
    fate = other := by
  cases first with
  | refused judged =>
      cases second with
      | refused judged' => cases judged.unique judged'; rfl
      | missed judged' _ => cases judged.unique judged'
      | added judged' _ => cases judged.unique judged'
      | removed judged' => cases judged.unique judged'
  | missed judged absent =>
      cases second with
      | refused judged' => cases judged.unique judged'
      | missed judged' _ => cases judged.unique judged'; rfl
      | added judged' found =>
          cases judged.unique judged'
          rw [absent] at found
          cases found
      | removed judged' => cases judged.unique judged'
  | added judged found =>
      cases second with
      | refused judged' => cases judged.unique judged'
      | missed judged' absent =>
          cases judged.unique judged'
          rw [absent] at found
          cases found
      | added judged' found' =>
          cases judged.unique judged'
          rw [found] at found'
          cases found'
          rfl
      | removed judged' => cases judged.unique judged'
  | removed judged =>
      cases second with
      | refused judged' => cases judged.unique judged'
      | missed judged' _ => cases judged.unique judged'
      | added judged' _ => cases judged.unique judged'
      | removed judged' => cases judged.unique judged'; rfl

/-- A directive with a verdict meets a fate. -/
theorem Judged.exists_meets
    {verdict : Verdict} (judged : directive.Judged verdict) (items : List Value) :
    ∃ fate, directive.Meets items fate := by
  cases judged with
  | badSku skuText bad => exact ⟨_, .refused (.badSku skuText bad)⟩
  | badQuantity kind skuText isSku quantityText bad =>
      exact ⟨_, .refused (.badQuantity kind skuText isSku quantityText bad)⟩
  | @add sku quantity n kind skuText isSku quantityText isQuantity =>
      have accepted := Judged.add kind skuText isSku quantityText isQuantity
      cases found : firstWithId items sku with
      | none => exact ⟨_, .missed accepted found⟩
      | some item => exact ⟨_, .added accepted found⟩
  | remove kind skuText isSku => exact ⟨_, .removed (.remove kind skuText isSku)⟩

/-- A directive of a text meets exactly one fate among any items. -/
theorem Written.existsUnique_fate (written : directive.Written) (items : List Value) :
    ∃! fate, directive.Meets items fate := by
  obtain ⟨verdict, judged⟩ := written.exists_judged
  obtain ⟨fate, meets⟩ := judged.exists_meets items
  refine ⟨fate, meets, ?_⟩
  intro other otherMeets
  exact otherMeets.unique meets

/-- A fate shows what the verdict on the directive says, and what the catalog
finds for its command. -/
theorem Meets.follows_verdict
    {verdict : Verdict} {catalog : Catalog}
    (meets : directive.Meets items fate) (judged : directive.Judged verdict)
    (finds : ∀ sku, catalog.find? sku = firstWithId items sku) :
    fate.refusal? = verdict.diagnostic? ∧
      fate.miss? = verdict.command?.bind (Command.miss? catalog) ∧
      fate.call? = verdict.command?.bind (Command.call? catalog) ∧
      fate.command? =
        verdict.command?.bind (Option.guard (Command.isExecutable catalog)) := by
  cases meets with
  | refused judged' =>
      cases judged.unique judged'
      exact ⟨rfl, rfl, rfl, rfl⟩
  | @missed sku n judged' absent =>
      cases judged.unique judged'
      have notThere : catalog.find? sku = none := (finds sku).trans absent
      refine ⟨rfl, ?_, ?_, ?_⟩
      · simp [Fate.miss?, Verdict.command?, Command.miss?, notThere]
      · simp [Fate.call?, Verdict.command?, Command.call?, notThere]
      · simp [Fate.command?, Verdict.command?, Option.guard, Command.isExecutable,
          Command.call?, notThere]
  | @added sku n item judged' found =>
      cases judged.unique judged'
      have there : catalog.find? sku = some item := (finds sku).trans found
      refine ⟨rfl, ?_, ?_, ?_⟩
      · simp [Fate.miss?, Verdict.command?, Command.miss?, there]
      · simp [Fate.call?, Verdict.command?, Command.call?, there]
      · simp [Fate.command?, Verdict.command?, Option.guard, Command.isExecutable,
          Command.call?, there]
  | removed judged' =>
      cases judged.unique judged'
      exact ⟨rfl, rfl, rfl, rfl⟩

/-- The fates of directives in order, beside the verdicts on them. -/
theorem exists_fates
    {directives : List Directive} {verdicts : List Verdict} {catalog : Catalog}
    (judged : List.Forall₂ Judged directives verdicts)
    (finds : ∀ sku, catalog.find? sku = firstWithId items sku) :
    ∃ fates, List.Forall₂ (Meets items) directives fates ∧
      fates.filterMap Fate.refusal? = verdicts.filterMap Verdict.diagnostic? ∧
      fates.filterMap Fate.miss? =
        (verdicts.filterMap Verdict.command?).filterMap (Command.miss? catalog) ∧
      fates.filterMap Fate.call? =
        (verdicts.filterMap Verdict.command?).filterMap (Command.call? catalog) ∧
      fates.filterMap Fate.command? =
        (verdicts.filterMap Verdict.command?).filterMap
          (Option.guard (Command.isExecutable catalog)) := by
  induction judged with
  | nil => exact ⟨[], .nil, rfl, rfl, rfl, rfl⟩
  | @cons directive verdict rest verdicts headJudged _ inductionHypothesis =>
      obtain ⟨fate, meets⟩ := headJudged.exists_meets items
      obtain ⟨refusal, miss, call, command⟩ := meets.follows_verdict headJudged finds
      obtain ⟨fates, restMeet, refusals, misses, calls, commands⟩ := inductionHypothesis
      refine ⟨fate :: fates, .cons meets restMeet, ?_, ?_, ?_, ?_⟩
      · rw [List.filterMap_cons, List.filterMap_cons, refusal, refusals]
      · rw [List.filterMap_cons, miss, misses]
        cases verdict <;> rfl
      · rw [List.filterMap_cons, call, calls]
        cases verdict <;> rfl
      · rw [List.filterMap_cons, command, commands]
        cases verdict <;> rfl

theorem fates_length (fates : List Fate) :
    fates.length =
      (fates.filterMap Fate.command?).length +
        (fates.filterMap Fate.refusal? ++ fates.filterMap Fate.miss?).length := by
  induction fates with
  | nil => rfl
  | cons fate rest inductionHypothesis =>
      rw [List.length_append] at inductionHypothesis ⊢
      cases fate with
      | refused diagnostic =>
          simp only [List.filterMap_cons, Fate.command?, Fate.refusal?, Fate.miss?,
            List.length_cons]
          omega
      | missed diagnostic =>
          simp only [List.filterMap_cons, Fate.command?, Fate.refusal?, Fate.miss?,
            List.length_cons]
          omega
      | executed command call =>
          simp only [List.filterMap_cons, Fate.command?, Fate.refusal?, Fate.miss?,
            List.length_cons]
          omega

end Directive

namespace Reply

variable {σ : Type} {context : TurnContext σ} {bench : Bench σ} {s : String}

/-- The items that an inventory offers. -/
def itemsOf (inventory : Value) : List Value :=
  inventory.members.toOption.getD []

/-- The catalog of an inventory finds the first item with an id. -/
theorem find?_catalogOf
    {inventory : Value} {catalog : Catalog}
    (indexed : catalogOf inventory = .ok catalog) (sku : String) :
    catalog.find? sku = firstWithId (itemsOf inventory) sku := by
  rw [catalogOf] at indexed
  cases offered : inventory.members with
  | error fault =>
      rw [offered] at indexed
      cases indexed
  | ok items =>
      rw [offered] at indexed
      cases built : Catalog.ofItems items with
      | error fault =>
          simp only [built, Except.mapError, bind, Except.bind] at indexed
          cases indexed
      | ok whole =>
          simp only [built, Except.mapError, bind, Except.bind, Except.ok.injEq] at indexed
          rw [← indexed, Catalog.find?_ofItems built, itemsOf, offered]
          rfl

/-- Every directive of a text has a fate when no quantity is too long and the
inventory has a catalog.  Processing is then a run of the commands that were
accepted, behind the refusals. -/
theorem exists_run
    {catalog : Catalog}
    (short : ∀ directive ∈ Directive.scan s.toList, ∀ count, ¬ directive.Overlong count)
    (indexed : catalogOf context.inventory = .ok catalog) (bench : Bench σ) :
    ∃ fates commands result after,
      List.Forall₂ (Directive.Meets (itemsOf context.inventory))
          (Directive.scan s.toList) fates ∧
        fates.filterMap Directive.Fate.miss? =
          commands.filterMap (Command.miss? catalog) ∧
        fates.filterMap Directive.Fate.call? =
          commands.filterMap (Command.call? catalog) ∧
        fates.filterMap Directive.Fate.command? =
          commands.filter (Command.isExecutable catalog) ∧
        Command.runAll context.access catalog
            (bench.reportAll (fates.filterMap Directive.Fate.refusal?)) [] commands =
          (result, after) ∧
        (processText context bench s).1 = result.map (fun executed =>
          ⟨executed, cleanedOf s.toList (Directive.scan s.toList)⟩) ∧
        (processText context bench s).2.state = after.state ∧
        (processText context bench s).2.sink = after.sink := by
  obtain ⟨verdicts, judged, noFailure, commands, reported⟩ := checkAll_scan short bench
  obtain ⟨result, after, ran, ended, state, sink⟩ := processText_of_catalog noFailure indexed
  obtain ⟨fates, meet, refusals, misses, calls, executions⟩ :=
    Directive.exists_fates judged (find?_catalogOf indexed)
  rw [reported, commands, ← refusals] at ran
  rw [List.filterMap_eq_filter] at executions
  exact ⟨fates, _, result, after, meet, misses, calls, executions, ran, ended, state, sink⟩

end Reply

end QuoteDesk
