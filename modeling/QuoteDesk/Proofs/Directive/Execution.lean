import QuoteDesk.Proofs.Directive.Bench
import QuoteDesk.Proofs.Quote.Calls

/-!
# Which calls a run of commands makes

A command asks for one call or for none.  An addition without an item in the
catalog is reported instead.  A run makes the calls of its commands in order,
each one once, and stops behind the first call that fails.  Its end is put in
one relation, which says what was executed, reported and called on the way.
-/

namespace QuoteDesk

namespace Command

/-- The call that a command asks for. -/
def call? (catalog : Catalog) : Command → Option QuoteCall
  | .add sku amount => (catalog.find? sku).map fun item => .add item amount
  | .remove sku => some (.remove sku)
  | .other _ => none

/-- The diagnostic of a command whose article is not in the catalog. -/
def miss? (catalog : Catalog) : Command → Option Diagnostic
  | .add sku amount =>
      if (catalog.find? sku).isNone then some (lookupMiss sku amount) else none
  | .remove _ => none
  | .other _ => none

/-- Whether a command asks for a call. -/
def isExecutable (catalog : Catalog) (command : Command) : Bool :=
  (command.call? catalog).isSome

variable {σ : Type} {catalog : Catalog} {command : Command} {call : QuoteCall}

/-! ## One command -/

theorem run_of_call?_eq_some
    (asked : command.call? catalog = some call)
    (access : QuoteAccess σ) (bench : Bench σ) :
    command.run access catalog bench =
        (fateOf (access.make bench.state call),
          bench.after (access.make bench.state call)) ∧
      command.miss? catalog = none := by
  cases command with
  | add sku amount =>
      obtain ⟨item, found, rfl⟩ := Option.map_eq_some_iff.1 asked
      simp only [run, miss?, found]
      exact ⟨rfl, rfl⟩
  | remove sku =>
      cases asked
      exact ⟨rfl, rfl⟩
  | other request => cases asked

theorem run_of_call?_eq_none
    (asked : command.call? catalog = none)
    (access : QuoteAccess σ) (bench : Bench σ) :
    ∃ next, command.run access catalog bench = (.passedOver, next) ∧
      next.state = bench.state ∧
      next.sink = bench.sink.reportAll (command.miss? catalog).toList := by
  cases command with
  | add sku amount =>
      have absent : catalog.find? sku = none := Option.map_eq_none_iff.1 asked
      refine ⟨bench.report (lookupMiss sku amount), ?_, rfl, ?_⟩
      · simp only [run, absent]
      · simp only [miss?, absent]
        rfl
  | remove sku => cases asked
  | other request => exact ⟨_, rfl, rfl, rfl⟩

/-- Commands run to their end when no operation fails. -/
theorem runAll_of_unfailing
    {access : QuoteAccess σ}
    (unfailing : ∀ state call, (access.make state call).failure = none)
    (catalog : Catalog) (bench : Bench σ) (before commands : List Command) :
    ∃ executed after,
      runAll access catalog bench before commands = (.ok executed, after) := by
  induction commands generalizing bench before with
  | nil => exact ⟨before, bench, rfl⟩
  | cons command rest inductionHypothesis =>
      rw [runAll]
      cases asked : command.call? catalog with
      | none =>
          obtain ⟨next, stepped, _⟩ := run_of_call?_eq_none asked access bench
          rw [stepped]
          exact inductionHypothesis next before
      | some call =>
          obtain ⟨stepped, _⟩ := run_of_call?_eq_some asked access bench
          rw [stepped, fateOf, unfailing]
          exact inductionHypothesis _ (before ++ [command])

/-! ## How a run ends -/

/-- How a run of commands from a state ends: with which result and in which state, and which
additions are reported and which calls made on the way. -/
inductive Ends (access : QuoteAccess σ) (catalog : Catalog) (state : σ) (commands : List Command) :
    Except Fault (List Command) → σ → List Diagnostic → List NotedCall → Prop
  /-- All calls succeed. -/
  | done {final : σ} :
      access.Succeeds state (commands.filterMap (call? catalog)) final →
      Ends access catalog state commands (.ok (commands.filter (isExecutable catalog))) final
        (commands.filterMap (miss? catalog))
        ((commands.filterMap (call? catalog)).map QuoteCall.succeeded)
  /-- A call fails behind some that succeed. -/
  | failed {earlier later : List Command} {failing : Command} {call : QuoteCall} {reached : σ}
      {fault : Fault} :
      commands = earlier ++ failing :: later →
      failing.call? catalog = some call →
      access.Succeeds state (earlier.filterMap (call? catalog)) reached →
      (access.make reached call).failure = some fault →
      Ends access catalog state commands (.error fault) (access.make reached call).state
        (earlier.filterMap (miss? catalog))
        ((earlier.filterMap (call? catalog)).map QuoteCall.succeeded ++ [⟨call, some fault⟩])

namespace Ends

variable {access : QuoteAccess σ} {state final : σ} {rest : List Command}
  {result : Except Fault (List Command)} {reported : List Diagnostic} {calls : List NotedCall}

theorem cons_of_none
    (asked : command.call? catalog = none)
    (ends : Ends access catalog state rest result final reported calls) :
    Ends access catalog state (command :: rest) result final
      ((command.miss? catalog).toList ++ reported) calls := by
  have missed : ∀ others : List Command,
      (command :: others).filterMap (miss? catalog) =
        (command.miss? catalog).toList ++ others.filterMap (miss? catalog) := by
    intro others
    rw [List.filterMap_cons]
    cases command.miss? catalog <;> rfl
  cases ends with
  | done succeeds =>
      have unexecuted : ¬ isExecutable catalog command = true := by simp [isExecutable, asked]
      rw [← missed, ← List.filterMap_cons_none (l := rest) asked,
        ← List.filter_cons_of_neg (l := rest) unexecuted]
      apply done
      rwa [List.filterMap_cons_none asked]
  | @failed earlier later failing call reached fault split fails succeeds failure =>
      have whole : command :: rest = (command :: earlier) ++ failing :: later := by
        rw [split, List.cons_append]
      rw [← missed, ← List.filterMap_cons_none (l := earlier) asked]
      refine failed whole fails ?_ failure
      rwa [List.filterMap_cons_none asked]

theorem cons_of_some
    (asked : command.call? catalog = some call)
    (works : (access.make state call).failure = none)
    (ends : Ends access catalog (access.make state call).state rest result final reported calls) :
    Ends access catalog state (command :: rest) (result.map (command :: ·)) final reported
      (call.succeeded :: calls) := by
  have noMiss : command.miss? catalog = none :=
    (run_of_call?_eq_some asked access ⟨state, .nowhere, []⟩).2
  cases ends with
  | done succeeds =>
      have executed : isExecutable catalog command = true := by simp [isExecutable, asked]
      rw [← List.filterMap_cons_none (l := rest) noMiss, ← List.map_cons,
        ← List.filterMap_cons_some (l := rest) asked, Except.map,
        ← List.filter_cons_of_pos (l := rest) executed]
      apply done
      rw [List.filterMap_cons_some asked]
      exact .cons works succeeds
  | @failed earlier later failing last reached fault split fails succeeds failure =>
      have whole : command :: rest = (command :: earlier) ++ failing :: later := by
        rw [split, List.cons_append]
      rw [← List.filterMap_cons_none (l := earlier) noMiss, ← List.cons_append, ← List.map_cons,
        ← List.filterMap_cons_some (l := earlier) asked]
      refine failed whole fails ?_ failure
      rw [List.filterMap_cons_some asked]
      exact .cons works succeeds

theorem of_ok
    {commands executed : List Command}
    (ends : Ends access catalog state commands (.ok executed) final reported calls) :
    executed = commands.filter (isExecutable catalog) ∧
      calls = (commands.filterMap (call? catalog)).map QuoteCall.succeeded ∧
      reported = commands.filterMap (miss? catalog) := by
  cases ends with
  | done succeeds => exact ⟨rfl, rfl, rfl⟩

theorem of_error
    {commands : List Command} {fault : Fault}
    (ends : Ends access catalog state commands (.error fault) final reported calls) :
    ∃ earlier failing later call,
      commands = earlier ++ failing :: later ∧ failing.call? catalog = some call ∧
        calls = (earlier.filterMap (call? catalog)).map QuoteCall.succeeded ++
          [⟨call, some fault⟩] ∧
        reported = earlier.filterMap (miss? catalog) := by
  cases ends with
  | failed split fails succeeds failure => exact ⟨_, _, _, _, split, fails, rfl, rfl⟩

/-- Watched calls are noted in the order in which they are made. -/
theorem of_noting
    {noted ended : Noted σ}
    (ends : Ends access.noting catalog noted rest result ended reported calls) :
    Ends access catalog noted.state rest result ended.state reported calls ∧
      ended.calls = noted.calls ++ calls := by
  cases ends with
  | done succeeds =>
      obtain ⟨leads, made⟩ := succeeds.of_noting
      exact ⟨.done leads, made⟩
  | @failed earlier later failing call reached fault split fails succeeds failure =>
      obtain ⟨leads, made⟩ := succeeds.of_noting
      rw [QuoteAccess.make_noting] at failure ⊢
      have once : (access.make reached.state call).failure = some fault := failure
      refine ⟨.failed split fails leads once, ?_⟩
      simp only [Noted.note, once, made, List.append_assoc]

end Ends

/-- A run comes to its end, with what was executed before it in front of the result. -/
theorem runAll_ends
    (access : QuoteAccess σ) (catalog : Catalog) (bench : Bench σ)
    (before commands : List Command) :
    ∃ result after reported calls,
      runAll access catalog bench before commands = (result.map (before ++ ·), after) ∧
        after.sink = bench.sink.reportAll reported ∧
        Ends access catalog bench.state commands result after.state reported calls := by
  induction commands generalizing bench before with
  | nil =>
      refine ⟨_, bench, _, _, ?_, rfl, .done .nil⟩
      rw [runAll, List.filter_nil, Except.map, List.append_nil]
  | cons command rest inductionHypothesis =>
      rw [runAll]
      cases asked : command.call? catalog with
      | none =>
          obtain ⟨next, stepped, state, sink⟩ := run_of_call?_eq_none asked access bench
          obtain ⟨result, after, reported, calls, ran, sunk, ends⟩ :=
            inductionHypothesis next before
          rw [state] at ends
          refine ⟨result, after, _, calls, ?_, ?_, ends.cons_of_none asked⟩
          · rw [stepped]
            exact ran
          · rw [sunk, sink, DiagnosticSink.reportAll_append]
      | some call =>
          obtain ⟨stepped, noMiss⟩ := run_of_call?_eq_some asked access bench
          rw [stepped]
          cases failure : (access.make bench.state call).failure with
          | some fault =>
              have first : command :: rest = [] ++ command :: rest := rfl
              refine ⟨.error fault, bench.after (access.make bench.state call), _, _, ?_, rfl,
                .failed first asked .nil failure⟩
              simp only [fateOf, failure, Except.map]
          | none =>
              obtain ⟨result, after, reported, calls, ran, sunk, ends⟩ :=
                inductionHypothesis (bench.after (access.make bench.state call))
                  (before ++ [command])
              refine ⟨_, after, reported, _, ?_, sunk, ends.cons_of_some asked failure⟩
              simp only [fateOf, failure, ran]
              cases result <;> simp [Except.map]

/-! ## Runs whose calls are noted -/

/-- A run that ends well made the calls of all its commands, none of which
failed, and reported every addition without an item. -/
theorem runAll_noting_ok
    {access : QuoteAccess σ} {bench after : Bench (Noted σ)}
    {before commands executed : List Command}
    (ran : runAll access.noting catalog bench before commands = (.ok executed, after)) :
    executed = before ++ commands.filter (isExecutable catalog) ∧
      after.state.calls =
        bench.state.calls ++ (commands.filterMap (call? catalog)).map QuoteCall.succeeded ∧
      after.sink = bench.sink.reportAll (commands.filterMap (miss? catalog)) := by
  obtain ⟨result, _, reported, calls, ended, sunk, ends⟩ :=
    runAll_ends access.noting catalog bench before commands
  cases result with
  | error fault => cases ended.symm.trans ran
  | ok kept =>
      cases ended.symm.trans ran
      obtain ⟨rfl, rfl, rfl⟩ := ends.of_ok
      exact ⟨rfl, ends.of_noting.2, sunk⟩

/-- A run that fails made the calls of the commands before one, none of which
failed, and then the call of that one, which failed with the fault of the run.
Only additions before it were reported. -/
theorem runAll_noting_error
    {access : QuoteAccess σ} {bench after : Bench (Noted σ)}
    {before commands : List Command} {fault : Fault}
    (ran : runAll access.noting catalog bench before commands = (.error fault, after)) :
    ∃ earlier failing later call,
      commands = earlier ++ failing :: later ∧ failing.call? catalog = some call ∧
        after.state.calls =
          bench.state.calls ++ (earlier.filterMap (call? catalog)).map QuoteCall.succeeded ++
            [⟨call, some fault⟩] ∧
        after.sink = bench.sink.reportAll (earlier.filterMap (miss? catalog)) := by
  obtain ⟨result, _, reported, calls, ended, sunk, ends⟩ :=
    runAll_ends access.noting catalog bench before commands
  cases result with
  | ok kept => cases ended.symm.trans ran
  | error reason =>
      cases ended.symm.trans ran
      obtain ⟨earlier, failing, later, call, split, asked, rfl, rfl⟩ := ends.of_error
      refine ⟨earlier, failing, later, call, split, asked, ?_, sunk⟩
      rw [ends.of_noting.2, List.append_assoc]

/-! ## Executing -/

/-- Executing is a run; the record that it makes is all it adds. -/
theorem execute_eq_runAll
    (access : QuoteAccess σ) (catalog : Catalog) (bench : Bench σ)
    (commands : List Command) :
    (execute access catalog bench commands).1 =
        (runAll access catalog bench [] commands).1 ∧
      (execute access catalog bench commands).2.state =
        (runAll access catalog bench [] commands).2.state ∧
      (execute access catalog bench commands).2.sink =
        (runAll access catalog bench [] commands).2.sink := by
  rw [execute]
  rcases runAll access catalog bench [] commands with ⟨fault | executed, after⟩
  · exact ⟨rfl, rfl, rfl⟩
  · simp only
    split
    · exact ⟨rfl, rfl, rfl⟩
    · exact ⟨rfl, rfl, rfl⟩

end Command

end QuoteDesk
