import QuoteDesk.Proofs.Reply.Calls

/-!
# How the execution of commands ends

Commands are executed in order up to the first call that fails.  The failure is passed on as
it is, what ran before it stands, and no addition behind it is reported.
-/

namespace QuoteDesk.Command

variable {σ : Type}

/-- When all calls succeed, the commands with a call are what was executed.  When one fails, its
failure is the result, and it was the last of the calls.  The state is the one behind the calls
that were made, and the additions without an item up to there were reported in order. -/
theorem execute_ends_at_first_failure
    (access : QuoteAccess σ) (catalog : Catalog) (bench : Bench σ) (commands : List Command) :
    ∃ reported,
      (execute access catalog bench commands).2.sink = bench.sink.reportAll reported ∧
        Ends access catalog bench.state commands (execute access catalog bench commands).1
          (execute access catalog bench commands).2.state reported
          (callsOf access catalog bench commands) := by
  obtain ⟨result, after, reported, calls, ran, sunk, ends⟩ :=
    runAll_ends access.noting catalog bench.noting [] commands
  obtain ⟨same, state, sink⟩ := execute_eq_runAll access.noting catalog bench.noting commands
  obtain ⟨led, made⟩ := ends.of_noting
  rw [ran] at same state sink
  have kept : result.map (fun executed => [] ++ executed) = result := by
    cases result <;> rfl
  refine ⟨reported, ?_, ?_⟩
  · rw [execute_noting access catalog bench commands]
    exact sink.trans sunk
  · rw [callsOf, execute_noting access catalog bench commands, same, state, made, kept]
    simp only [Bench.mapState, state]
    exact led

end QuoteDesk.Command
