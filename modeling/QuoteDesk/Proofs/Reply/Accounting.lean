import QuoteDesk.Proofs.Reply.Faults

/-!
# Every directive is accounted for

When processing ends well, the calls, the commands and the diagnostics are
those of the fates of all directives, each in the order of the text; none is
lost and none counts twice.
-/

namespace QuoteDesk

namespace Reply

variable {σ : Type} {context : TurnContext σ} {bench : Bench σ} {s : String}

/-- A reply that is processed to its end has no quantity of too many digits. -/
theorem short_of_returned
    {processed : Processed}
    (returned : (processText context bench s).1 = .ok processed) :
    ∀ directive ∈ Directive.scan s.toList, ∀ count, ¬ directive.Overlong count := by
  intro directive member count overlong
  obtain ⟨before, first, after, length, split, firstOverlong, earlierShort⟩ :=
    exists_first_overlong member overlong
  rw [(processText_of_overlong split firstOverlong earlierShort).1] at returned
  cases returned

theorem exists_catalog_of_returned
    {processed : Processed}
    (returned : (processText context bench s).1 = .ok processed) :
    ∃ catalog, catalogOf context.inventory = .ok catalog := by
  cases indexed : catalogOf context.inventory with
  | ok catalog => exact ⟨catalog, rfl⟩
  | error fault =>
      obtain ⟨_, _, noFailure, _⟩ := checkAll_scan (short_of_returned returned) bench
      rw [processText_of_catalog_error noFailure indexed] at returned
      cases returned

/-- Processing that ends well leaves the calls, the commands and the diagnostics
of the fates of all directives. -/
theorem exists_fates_of_returned
    {processed : Processed}
    (returned : (process context bench (.text s)).1 = .ok processed) :
    ∃ fates,
      List.Forall₂ (Directive.Meets (itemsOf context.inventory))
          (Directive.scan s.toList) fates ∧
        callsOf context bench (.text s) =
          (fates.filterMap Directive.Fate.call?).map QuoteCall.succeeded ∧
        processed.executed = fates.filterMap Directive.Fate.command? ∧
        (process context bench (.text s)).2.sink =
          bench.sink.reportAll (fates.filterMap Directive.Fate.refusal? ++
            fates.filterMap Directive.Fate.miss?) := by
  by_cases empty : s = ""
  · subst empty
    cases returned
    exact ⟨[], List.Forall₂.nil, rfl, rfl, rfl⟩
  · -- The run is looked at where its calls are noted; it is the same run.
    rw [process_noting, callsOf, process_text _ _ empty] at *
    obtain ⟨catalog, indexed⟩ := exists_catalog_of_returned returned
    obtain ⟨fates, commands, result, after, meet, misses, calls, executions, ran, ended,
      state, sink⟩ := exists_run (short_of_returned returned) indexed bench.noting
    rw [ended] at returned
    cases result with
    | error fault => cases returned
    | ok executed =>
        cases returned
        obtain ⟨kept, made, missed⟩ := Command.runAll_noting_ok ran
        refine ⟨fates, meet, ?_, ?_, ?_⟩
        · rw [state, made, calls, Bench.reportAll_state]
          rfl
        · rw [kept, executions, List.nil_append]
        · rw [misses, DiagnosticSink.reportAll_append]
          simp only [Bench.mapState, sink, missed, Bench.reportAll_sink]
          rfl

/-- When a text was processed, each of its directives has exactly one fate.
The calls, the commands and the diagnostics are those of the fates in the order
of the text, all refusals before all articles that were not there, and together
they are as many as the directives. -/
theorem process_accounts_for_directives
    {processed : Processed}
    (returned : (process context bench (.text s)).1 = .ok processed) :
    (∀ directive ∈ Directive.scan s.toList,
      ∃! fate, directive.Meets (itemsOf context.inventory) fate) ∧
    ∃ fates,
      List.Forall₂ (Directive.Meets (itemsOf context.inventory))
          (Directive.scan s.toList) fates ∧
        callsOf context bench (.text s) =
          (fates.filterMap Directive.Fate.call?).map QuoteCall.succeeded ∧
        processed.executed = fates.filterMap Directive.Fate.command? ∧
        (process context bench (.text s)).2.sink =
          bench.sink.reportAll (fates.filterMap Directive.Fate.refusal? ++
            fates.filterMap Directive.Fate.miss?) ∧
        (∀ held, bench.sink = .outside held →
          (process context bench (.text s)).2.sink =
            .outside { held with
              sent := held.sent ++ (fates.filterMap Directive.Fate.refusal? ++
                fates.filterMap Directive.Fate.miss?) }) ∧
        (Directive.scan s.toList).length =
          processed.executed.length + (fates.filterMap Directive.Fate.refusal? ++
            fates.filterMap Directive.Fate.miss?).length := by
  obtain ⟨fates, meet, calls, executed, reported⟩ := exists_fates_of_returned returned
  refine ⟨?_, fates, meet, calls, executed, reported, ?_, ?_⟩
  · intro directive member
    have written := Directive.written_of_mem_scan member
    exact written.existsUnique_fate (itemsOf context.inventory)
  · intro held outside
    rw [reported, outside, DiagnosticSink.reportAll_outside]
  · rw [executed, meet.length_eq, Directive.fates_length]

/-- A text with an article number that is none, an article that is not there, a
quantity of zero, a removal and an addition. -/
def fiveRequests : String :=
  String.ofList
    (Mark.word (.add ['a', '-', '1'] ['1']) ++ Mark.word (.add ['Z', '-', '9'] ['2']) ++
      Mark.word (.add ['A', '-', '1'] ['0']) ++ Mark.word (.remove ['B', '-', '2']) ++
      Mark.word (.add ['A', '-', '1'] ['3']))

theorem process_accounts_for_fiveRequests :
    ∃ processed fates,
      (@process Unit ⟨oneArticle, .idle, .null⟩ ⟨(), .failing "", []⟩
          (.text fiveRequests)).1 = .ok processed ∧
        List.Forall₂ (Directive.Meets [.dict [("id", .text "A-1")]])
          (Directive.scan fiveRequests.toList) fates ∧
        processed.executed.length + (fates.filterMap Directive.Fate.refusal? ++
          fates.filterMap Directive.Fate.miss?).length = 5 := by
  have length : fiveRequests.toList.length ≤ Number.digitLimit := by
    rw [fiveRequests, String.toList_ofList]
    decide +kernel
  have five : (Directive.scan fiveRequests.toList).length = 5 := by
    rw [fiveRequests, String.toList_ofList]
    decide +kernel
  obtain ⟨processed, returned⟩ := @exists_returned Unit ⟨oneArticle, .idle, .null⟩
    ⟨(), .failing "", []⟩ fiveRequests hasTextIds_oneArticle
    (short_of_length_le length) QuoteAccess.idle_make_failure
  obtain ⟨_, fates, meet, _, _, _, _, count⟩ := process_accounts_for_directives returned
  exact ⟨processed, fates, returned, meet, count.symm.trans five⟩

end Reply

end QuoteDesk
