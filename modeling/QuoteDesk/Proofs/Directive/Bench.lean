import QuoteDesk.Directive.Execute

/-!
# Work at a bench

Several diagnostics are reported one after the other.  What is done at a bench
depends on the state behind the quote only through the operations, so benches
whose operations correspond stay in step.
-/

namespace QuoteDesk

/-! ## Reporting in order -/

/-- Sends diagnostics to a sink, in order. -/
def DiagnosticSink.reportAll
    (sink : DiagnosticSink) (diagnostics : List Diagnostic) : DiagnosticSink :=
  diagnostics.foldl (fun sink diagnostic => (sink.report diagnostic).1) sink

namespace DiagnosticSink

@[simp]
theorem reportAll_nil (sink : DiagnosticSink) : sink.reportAll [] = sink := rfl

@[simp]
theorem reportAll_cons (sink : DiagnosticSink) (first : Diagnostic) (more : List Diagnostic) :
    sink.reportAll (first :: more) = (sink.report first).1.reportAll more := rfl

@[simp]
theorem reportAll_append (sink : DiagnosticSink) (first second : List Diagnostic) :
    sink.reportAll (first ++ second) = (sink.reportAll first).reportAll second :=
  List.foldl_append

/-- A sink from outside was sent what was sent to it before and then the rest. -/
theorem reportAll_outside (held : OutsideSink) (diagnostics : List Diagnostic) :
    reportAll (.outside held) diagnostics =
      .outside { held with sent := held.sent ++ diagnostics } := by
  induction diagnostics generalizing held with
  | nil => simp
  | cons first more inductionHypothesis =>
      simp only [reportAll_cons, report, inductionHypothesis,
        List.append_assoc, List.cons_append, List.nil_append]

end DiagnosticSink

namespace Bench

variable {σ τ : Type}

def reportAll (bench : Bench σ) (diagnostics : List Diagnostic) : Bench σ :=
  diagnostics.foldl report bench

@[simp]
theorem reportAll_nil (bench : Bench σ) : bench.reportAll [] = bench := rfl

@[simp]
theorem reportAll_cons (bench : Bench σ) (first : Diagnostic) (more : List Diagnostic) :
    bench.reportAll (first :: more) = (bench.report first).reportAll more := rfl

@[simp]
theorem reportAll_state (bench : Bench σ) (diagnostics : List Diagnostic) :
    (bench.reportAll diagnostics).state = bench.state := by
  induction diagnostics generalizing bench with
  | nil => rfl
  | cons first more inductionHypothesis =>
      rw [reportAll_cons, inductionHypothesis]
      rfl

@[simp]
theorem reportAll_sink (bench : Bench σ) (diagnostics : List Diagnostic) :
    (bench.reportAll diagnostics).sink = bench.sink.reportAll diagnostics := by
  induction diagnostics generalizing bench with
  | nil => rfl
  | cons first more inductionHypothesis =>
      rw [reportAll_cons, inductionHypothesis]
      rfl

/-! ## Benches in step -/

/-- The bench with another state behind the quote. -/
def mapState (view : σ → τ) (bench : Bench σ) : Bench τ :=
  ⟨view bench.state, bench.sink, bench.log⟩

end Bench

variable {σ τ : Type}

theorem Directive.check_mapState
    (view : σ → τ) (bench : Bench σ) (directive : Directive) :
    directive.check (bench.mapState view) =
      ((directive.check bench).1, (directive.check bench).2.mapState view) := by
  unfold Directive.check
  split <;> rfl

theorem checkAll_mapState
    (view : σ → τ) (bench : Bench σ) (directives : List Directive) :
    checkAll (bench.mapState view) directives =
      ((checkAll bench directives).1, (checkAll bench directives).2.mapState view) := by
  induction directives generalizing bench with
  | nil => rfl
  | cons directive rest inductionHypothesis =>
      rw [checkAll, checkAll, Directive.check_mapState]
      rcases directive.check bench with ⟨fault | command, next⟩
      · rfl
      · simp only [inductionHypothesis]

/-- Operations on two states correspond along a view. -/
structure QuoteAccess.Follows
    (view : σ → τ) (inner : QuoteAccess σ) (outer : QuoteAccess τ) : Prop where
  add : ∀ state item amount, outer.add (view state) item amount =
    ⟨view (inner.add state item amount).state, (inner.add state item amount).log,
      (inner.add state item amount).failure⟩
  remove : ∀ state sku, outer.remove (view state) sku =
    ⟨view (inner.remove state sku).state, (inner.remove state sku).log,
      (inner.remove state sku).failure⟩

namespace Command

variable {view : σ → τ} {inner : QuoteAccess σ} {outer : QuoteAccess τ}

theorem run_mapState
    (follows : QuoteAccess.Follows view inner outer) (catalog : Catalog)
    (bench : Bench σ) (command : Command) :
    command.run outer catalog (bench.mapState view) =
      ((command.run inner catalog bench).1,
        (command.run inner catalog bench).2.mapState view) := by
  cases command with
  | add sku amount =>
      simp only [run]
      cases catalog.find? sku with
      | none => rfl
      | some item =>
          simp only [Bench.mapState, follows.add]
          rfl
  | remove sku =>
      simp only [run, Bench.mapState, follows.remove]
      rfl
  | other request => rfl

theorem runAll_mapState
    (follows : QuoteAccess.Follows view inner outer) (catalog : Catalog)
    (bench : Bench σ) (before commands : List Command) :
    runAll outer catalog (bench.mapState view) before commands =
      ((runAll inner catalog bench before commands).1,
        (runAll inner catalog bench before commands).2.mapState view) := by
  induction commands generalizing bench before with
  | nil => rfl
  | cons command rest inductionHypothesis =>
      rw [runAll, runAll, run_mapState follows]
      rcases command.run inner catalog bench with ⟨_ | _ | fault, next⟩
      · exact inductionHypothesis next (before ++ [command])
      · exact inductionHypothesis next before
      · rfl

/-- Execution does not look behind the view of the state. -/
theorem execute_mapState
    (follows : QuoteAccess.Follows view inner outer) (catalog : Catalog)
    (bench : Bench σ) (commands : List Command) :
    execute outer catalog (bench.mapState view) commands =
      ((execute inner catalog bench commands).1,
        (execute inner catalog bench commands).2.mapState view) := by
  rw [execute, execute, runAll_mapState follows]
  rcases runAll inner catalog bench [] commands with ⟨fault | executed, next⟩
  · rfl
  · simp only
    split <;> rfl

end Command

end QuoteDesk
