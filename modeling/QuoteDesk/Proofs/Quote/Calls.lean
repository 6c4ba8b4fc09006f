import QuoteDesk.Quote.Access

/-!
# The calls that a quote receives

Any operations on a quote can be watched: every call is noted together with why
it failed, if it did.  The watched operations do what the others do.
-/

namespace QuoteDesk

/-- A call of an operation on a quote, and why it failed, if it did. -/
structure NotedCall where
  call : QuoteCall
  failure : Option Fault

/-- A call that did not fail. -/
def QuoteCall.succeeded (call : QuoteCall) : NotedCall := ⟨call, none⟩

/-- A state behind a quote together with the calls made so far, in order. -/
structure Noted (σ : Type) where
  state : σ
  calls : List NotedCall

namespace Noted

/-- Notes a call with what it led to. -/
def note (noted : Noted σ) (call : QuoteCall) (change : Change σ) : Change (Noted σ) :=
  ⟨⟨change.state, noted.calls ++ [⟨call, change.failure⟩]⟩, change.log, change.failure⟩

end Noted

namespace QuoteAccess

def make (access : QuoteAccess σ) (state : σ) : QuoteCall → Change σ
  | .add item amount => access.add state item amount
  | .remove sku => access.remove state sku

/-- The same operations, which also note every call. -/
def noting (access : QuoteAccess σ) : QuoteAccess (Noted σ) where
  add noted item amount :=
    noted.note (.add item amount) (access.add noted.state item amount)
  remove noted sku :=
    noted.note (.remove sku) (access.remove noted.state sku)

theorem make_noting (access : QuoteAccess σ) (noted : Noted σ) (call : QuoteCall) :
    access.noting.make noted call =
      noted.note call (access.make noted.state call) := by
  cases call <;> rfl

theorem idle_make_failure (state : σ) (call : QuoteCall) :
    (idle.make state call).failure = none := by
  cases call <;> rfl

/-! ## Calls that succeed -/

/-- Calls that succeed one after the other lead from one state to another. -/
inductive Succeeds (access : QuoteAccess σ) : σ → List QuoteCall → σ → Prop
  | nil {state : σ} : Succeeds access state [] state
  | cons {state final : σ} {call : QuoteCall} {rest : List QuoteCall} :
      (access.make state call).failure = none →
      Succeeds access (access.make state call).state rest final →
      Succeeds access state (call :: rest) final

/-- Watched calls that succeed are noted, and the state behind them is led the same way. -/
theorem Succeeds.of_noting
    {access : QuoteAccess σ} {noted final : Noted σ} {calls : List QuoteCall}
    (succeeds : access.noting.Succeeds noted calls final) :
    access.Succeeds noted.state calls final.state ∧
      final.calls = noted.calls ++ calls.map QuoteCall.succeeded := by
  induction succeeds with
  | nil => exact ⟨.nil, by simp⟩
  | @cons noted final call rest works _ inductionHypothesis =>
      obtain ⟨leads, calls⟩ := inductionHypothesis
      rw [make_noting] at works leads calls
      refine ⟨.cons works leads, ?_⟩
      have once : (access.make noted.state call).failure = none := works
      simp only [calls, Noted.note, once, List.map_cons, QuoteCall.succeeded, List.append_assoc,
        List.singleton_append]

/-! ## Attempts -/

/-- The calls made when some are attempted in order: all up to the first that fails,
and that one. -/
def attempts (access : QuoteAccess σ) (state : σ) : List QuoteCall → List NotedCall
  | [] => []
  | call :: rest =>
      let change := access.make state call
      ⟨call, change.failure⟩ ::
        match change.failure with
        | none => access.attempts change.state rest
        | some _ => []

theorem attempts_cons_of_none
    {access : QuoteAccess σ} {state : σ} {call : QuoteCall}
    (succeeds : (access.make state call).failure = none) (rest : List QuoteCall) :
    access.attempts state (call :: rest) =
      call.succeeded :: access.attempts (access.make state call).state rest := by
  simp only [attempts, succeeds, QuoteCall.succeeded]

theorem attempts_cons_of_some
    {access : QuoteAccess σ} {state : σ} {call : QuoteCall} {fault : Fault}
    (fails : (access.make state call).failure = some fault) (rest : List QuoteCall) :
    access.attempts state (call :: rest) = [⟨call, some fault⟩] := by
  simp only [attempts, fails]

end QuoteAccess

end QuoteDesk
