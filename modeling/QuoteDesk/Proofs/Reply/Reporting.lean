import QuoteDesk.Proofs.Directive.Reporting
import QuoteDesk.Proofs.Reply.Processing

/-!
# Processing heeds no sink

Diagnostics leave a reply on its way, some when its directives are checked and some in the
middle of the execution.  Where they go decides nothing: without a sink, with a ring that is
full, with a log or with a sink that fails, the same calls are made and the work ends alike.
-/

namespace QuoteDesk

open Bench (Heedless Leads)

namespace Reply

variable {σ : Type}

theorem heedless_processText (context : TurnContext σ) (text : String) :
    Heedless fun bench => processText context bench text := by
  intro state
  obtain ⟨checked, middle, reported, checks⟩ :=
    heedless_checkAll (Directive.scan text.toList) state
  cases failure : checked.failure with
  | some fault =>
      refine (checks.andThen (.resting (.error fault) middle) ?_).heedless
      intro bench after told
      simp only [processText, told, failure]
  | none =>
      cases indexed : catalogOf context.inventory with
      | error fault =>
          refine (checks.andThen (.resting (.error fault) middle) ?_).heedless
          intro bench after told
          simp only [processText, told, failure, indexed]
      | ok catalog =>
          obtain ⟨result, final, more, executes⟩ :=
            Command.heedless_execute context.access catalog checked.commands middle
          refine ⟨result.map fun executed =>
            ⟨executed, cleanedOf text.toList (Directive.scan text.toList)⟩,
            final, reported ++ more, fun sink log => ?_⟩
          obtain ⟨records, told⟩ := checks sink log
          obtain ⟨others, ran⟩ := executes (sink.reportAll reported) records
          rw [DiagnosticSink.reportAll_append]
          simp only [processText, told, failure, indexed, ran]
          cases result with
          | error fault => exact ⟨_, rfl⟩
          | ok executed => exact ⟨_, rfl⟩

/-- Processing does not depend on where its diagnostics go. -/
theorem heedless_process (context : TurnContext σ) (reply : Value) :
    Heedless fun bench => process context bench reply := by
  unfold process
  split
  · exact fun state => (Leads.resting _ state).heedless
  · exact heedless_processText context _
  · exact fun state => (Leads.resting _ state).heedless

/-- The context, the state behind the quote and the reply alone decide how the processing
ends, which calls it makes, in which order and how each of them ended, and what is reported.
The sink and the records decide nothing of it. -/
theorem process_heeds_no_sink (context : TurnContext σ) (state : σ) (reply : Value) :
    ∃ outcome final calls reported, ∀ (sink : DiagnosticSink) (log : List LogRecord),
      (process context ⟨state, sink, log⟩ reply).1 = outcome ∧
        (process context ⟨state, sink, log⟩ reply).2.state = final ∧
        callsOf context ⟨state, sink, log⟩ reply = calls ∧
        (process context ⟨state, sink, log⟩ reply).2.sink = sink.reportAll reported := by
  obtain ⟨outcome, final, reported, processes⟩ := heedless_process context.noting reply ⟨state, []⟩
  refine ⟨outcome, final.state, final.calls, reported, fun sink log => ?_⟩
  obtain ⟨records, noted⟩ := processes sink log
  have watched : process context.noting (Bench.noting ⟨state, sink, log⟩) reply =
      (outcome, ⟨final, sink.reportAll reported, records⟩) := noted
  rw [process_noting, callsOf, watched]
  exact ⟨rfl, rfl, rfl, rfl⟩

end Reply

end QuoteDesk
