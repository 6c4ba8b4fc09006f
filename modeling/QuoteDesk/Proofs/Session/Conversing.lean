import QuoteDesk.Proofs.Session.Courses
import QuoteDesk.Session.Backend

/-!
# Conversing with a backend

A whole turn with a backend asks it once for a message that is taken, if there is time,
and not at all for any other.  Between two turns nothing is in flight.
-/

namespace QuoteDesk

open Text

variable {σ κ : Type}

/-- The message that a request is about. -/
def BackendRequest.message : BackendRequest → String
  | .chat message _ => message
  | .analyze description => description

/-- A backend that notes the messages it is asked about. -/
def Backend.noting (backend : Backend κ) : Backend (κ × List String) where
  answer state request inventory quoteLines :=
    let answered := backend.answer state.1 request inventory quoteLines
    ⟨answered.answer, answered.log, (answered.state, state.2 ++ [request.message])⟩

namespace Session

theorem abandoned_limits (session : Session σ) : session.abandoned.limits = session.limits := by
  unfold abandoned
  split <;> rfl

theorem failed_limits (session : Session σ) (turn : Turn σ) :
    (session.failed turn).limits = session.limits :=
  session.abandoned_limits

theorem reviewing_limits (session : Session σ) (bom : Bom) :
    (session.reviewing bom).limits = session.limits := by
  unfold reviewing
  split <;> rfl

end Session

namespace Stage

variable {stage after : Stage σ} {act : SessionAct σ} {outcome : StepOutcome} {input : String}

/-- The limits of a session are never changed. -/
theorem Moves.limits_eq (moves : stage.Moves act outcome after) :
    after.session.limits = stage.session.limits := by
  cases moves with
  | stays _ _ leads => rw [leads.reaches]
  | waits _ _ leads => rw [leads.reaches, opened_limits]
  | expires _ _ _ leads => rw [leads.reaches, Session.failed_limits, opened_limits]
  | fails _ _ _ leads => rw [leads.reaches, Session.failed_limits]
  | replies _ _ _ _ _ leads => rw [leads.reaches]; rfl
  | analyses _ _ _ _ leads => rw [leads.reaches]; exact Session.reviewing_limits _ _
  | cancels _ leads => rw [leads.reaches]; exact Session.abandoned_limits _
  | adds _ _ _ _ _ leads => rw [leads.reaches]; rfl
  | dismisses _ leads => rw [leads.reaches]; rfl

theorem Moves.settled
    (moves : stage.Moves act outcome after) (quiet : ∀ context input, act ≠ .send context input) :
    outcome ≠ .waiting := by
  rintro rfl
  cases moves with
  | stays none => cases none
  | waits => exact quiet _ _ rfl

/-- Only a turn that waits for its answer is left in flight. -/
theorem Moves.idle_of_settled
    (moves : stage.Moves act outcome after) (idle : stage.session.turn = none)
    (settled : outcome ≠ .waiting) : after.session.turn = none := by
  cases moves with
  | stays _ _ leads => rw [leads.reaches, idle]
  | waits => exact absurd rfl settled
  | expires _ _ _ leads => rw [leads.reaches]; rfl
  | fails _ _ _ leads => rw [leads.reaches]; rfl
  | replies _ _ _ _ _ leads => rw [leads.reaches]; rfl
  | analyses _ _ _ _ leads => rw [leads.reaches]; rfl
  | cancels _ leads => rw [leads.reaches]; rfl
  | adds _ _ _ _ _ leads => rw [leads.reaches]; exact idle
  | dismisses _ leads => rw [leads.reaches]; exact idle

/-- Noting changes nothing. -/
theorem converse_noting
    (stage : Stage σ) (backend : Backend κ) (observer : Observer σ) (context : TurnContext σ)
    (input : String) (state : κ × List String) :
    stage.converse backend observer context input state.1 =
      ((stage.converse backend.noting observer context input state).1,
        (stage.converse backend.noting observer context input state).2.1,
        (stage.converse backend.noting observer context input state).2.2.1) := by
  unfold converse
  rcases stage.begin observer context input with ⟨outcome, after⟩
  cases outcome with
  | waiting =>
      dsimp only
      cases after.asked.getLast? <;> rfl
  | refused | ignored | answered | cancelled => rfl

end Stage

end QuoteDesk
