import QuoteDesk.Proofs.Directive.Bench

/-!
# Reports do not come back

Whoever works at a bench reports to its sink and adds to its records, and looks at neither.
From a state such work comes to one result and one state, and it reports the same
diagnostics, whatever the sink keeps of them and whether it fails on them or not.
-/

namespace QuoteDesk

variable {σ α β : Type}

namespace Bench

/-- Work leads from a state to a result and a state and reports some diagnostics, at every
bench with that state, whatever its sink and its records are. -/
def Leads
    (work : Bench σ → α × Bench σ) (state : σ) (result : α) (final : σ)
    (reported : List Diagnostic) : Prop :=
  ∀ sink log, ∃ records,
    work ⟨state, sink, log⟩ = (result, ⟨final, sink.reportAll reported, records⟩)

/-- Work that takes no notice of the sink and of the records. -/
def Heedless (work : Bench σ → α × Bench σ) : Prop :=
  ∀ state, ∃ result final reported, Leads work state result final reported

namespace Leads

/-! ## Single steps -/

theorem resting (result : α) (state : σ) : Leads (result, ·) state result state [] :=
  fun _ log => ⟨log, rfl⟩

theorem reporting (result : α) (state : σ) (diagnostic : Diagnostic) :
    Leads (fun bench => (result, bench.report diagnostic)) state result state [diagnostic] :=
  fun _ _ => ⟨_, rfl⟩

theorem recording (result : α) (state : σ) (entries : List LogRecord) :
    Leads (fun bench => (result, { bench with log := bench.log ++ entries })) state result state
      [] :=
  fun _ _ => ⟨_, rfl⟩

/-- What an operation on the quote leads to hangs on the state behind it alone. -/
theorem changing (operation : σ → Change σ) (outcome : Change σ → α) (state : σ) :
    Leads (fun bench => (outcome (operation bench.state), bench.after (operation bench.state)))
      state (outcome (operation state)) (operation state).state [] :=
  fun _ _ => ⟨_, rfl⟩

/-! ## One step after the other -/

variable {work : Bench σ → α × Bench σ} {next whole : Bench σ → β × Bench σ}
  {state middle final : σ} {result : α} {last : β} {reported more : List Diagnostic}

theorem andThen
    (first : Leads work state result middle reported) (rest : Leads next middle last final more)
    (same : ∀ bench after, work bench = (result, after) → whole bench = next after) :
    Leads whole state last final (reported ++ more) := by
  intro sink log
  obtain ⟨records, led⟩ := first sink log
  obtain ⟨others, goneOn⟩ := rest (sink.reportAll reported) records
  refine ⟨others, ?_⟩
  rw [same _ _ led, goneOn, DiagnosticSink.reportAll_append]

theorem map (leads : Leads work state result final reported) (view : α → β) :
    Leads (fun bench => (view (work bench).1, (work bench).2)) state (view result) final
      reported := by
  intro sink log
  obtain ⟨records, led⟩ := leads sink log
  refine ⟨records, ?_⟩
  simp only [led]

theorem heedless (leads : Leads work state result final reported) :
    ∃ result final reported, Leads work state result final reported :=
  ⟨result, final, reported, leads⟩

end Leads

end Bench

open Bench (Heedless Leads)

/-! ## Checking -/

theorem Directive.heedless_check (directive : Directive) :
    Heedless fun bench : Bench σ => directive.check bench := by
  intro state
  unfold Directive.check
  split
  · exact (Leads.resting _ state).heedless
  · exact (Leads.reporting _ state _).heedless
  · exact (Leads.resting _ state).heedless

theorem heedless_checkAll (directives : List Directive) :
    Heedless fun bench : Bench σ => checkAll bench directives := by
  induction directives with
  | nil => exact fun state => (Leads.resting _ state).heedless
  | cons directive rest inductionHypothesis =>
      intro state
      obtain ⟨verdict, middle, reported, checks⟩ := directive.heedless_check state
      cases verdict with
      | error fault =>
          refine (checks.andThen (.resting ⟨[], some fault⟩ middle) ?_).heedless
          intro bench after checked
          rw [checkAll, checked]
      | ok command =>
          obtain ⟨_, final, more, goesOn⟩ := inductionHypothesis middle
          refine (checks.andThen (goesOn.map fun checked =>
            ⟨(directive, command) :: checked.pairs, checked.failure⟩) ?_).heedless
          intro bench after checked
          rw [checkAll, checked]

/-! ## Executing -/

namespace Command

theorem heedless_run (access : QuoteAccess σ) (catalog : Catalog) (command : Command) :
    Heedless fun bench => command.run access catalog bench := by
  intro state
  cases command with
  | add sku amount =>
      simp only [run]
      cases catalog.find? sku with
      | none => exact (Leads.reporting _ state _).heedless
      | some item => exact (Leads.changing (access.add · item amount) fateOf state).heedless
  | remove sku => exact (Leads.changing (access.remove · sku) fateOf state).heedless
  | other request => exact (Leads.recording _ state _).heedless

theorem heedless_runAll
    (access : QuoteAccess σ) (catalog : Catalog) (before commands : List Command) :
    Heedless fun bench => runAll access catalog bench before commands := by
  induction commands generalizing before with
  | nil => exact fun state => (Leads.resting _ state).heedless
  | cons command rest inductionHypothesis =>
      intro state
      obtain ⟨fate, middle, reported, runs⟩ := command.heedless_run access catalog state
      cases fate with
      | executed =>
          obtain ⟨_, final, more, goesOn⟩ := inductionHypothesis (before ++ [command]) middle
          refine (runs.andThen goesOn ?_).heedless
          intro bench after ran
          rw [runAll, ran]
      | passedOver =>
          obtain ⟨_, final, more, goesOn⟩ := inductionHypothesis before middle
          refine (runs.andThen goesOn ?_).heedless
          intro bench after ran
          rw [runAll, ran]
      | failed fault =>
          refine (runs.andThen (.resting (.error fault) middle) ?_).heedless
          intro bench after ran
          rw [runAll, ran]

/-- Execution does not depend on where its diagnostics go. -/
theorem heedless_execute
    (access : QuoteAccess σ) (catalog : Catalog) (commands : List Command) :
    Heedless fun bench => execute access catalog bench commands := by
  intro state
  obtain ⟨result, final, reported, runs⟩ := heedless_runAll access catalog [] commands state
  cases result with
  | error fault =>
      refine (runs.andThen (.resting (.error fault) final) ?_).heedless
      intro bench after ran
      rw [execute, ran]
  | ok executed =>
      by_cases nothing : executed.isEmpty = true
      · refine (runs.andThen (.resting (.ok executed) final) ?_).heedless
        intro bench after ran
        rw [execute, ran]
        exact if_pos nothing
      · refine (runs.andThen (.recording (.ok executed) final
          [.debug logger s!"Executed {executed.length} quote command(s)"]) ?_).heedless
        intro bench after ran
        rw [execute, ran]
        exact if_neg nothing

end Command

end QuoteDesk
