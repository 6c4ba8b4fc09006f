import QuoteDesk.Assistant
import QuoteDesk.Session.Turn

/-!
# Backends

A backend answers the requests of a session. An assistant is one; whoever else answers requests in
the same form is one, too.
-/

namespace QuoteDesk

/-- What a backend did with a request: its answer, the records it made and the state after it. -/
structure Answered (κ : Type) where
  answer : BackendAnswer
  log : List LogRecord
  state : κ

/-- Who answers the requests of a session; `κ` is the state behind it. A request comes with the
inventory and the lines of the quote. -/
structure Backend (κ : Type) where
  answer : κ → BackendRequest → Value → Value → Answered κ

namespace Assistant

/-- The exchange about a request as what the assistant did with it. -/
def answered (wrap : α → BackendAnswer) (exchange : Exchange κ α) : Answered κ :=
  match exchange.outcome with
  | .ok result => ⟨wrap result, exchange.log, exchange.transport⟩
  | .error failure => ⟨.failed failure.fault, exchange.log, exchange.transport⟩

def backend (assistant : Assistant κ) : Backend κ where
  answer state request inventory quoteLines :=
    match request with
    | .chat message history =>
      let spoken := Value.list (history.map fun entry => .dict entry.toPrompt)
      answered (fun text => .reply (.text text))
        (assistant.chat (.text message) inventory quoteLines spoken state)
    | .analyze description =>
      answered .analysis (assistant.analyze (.text description) inventory state)

end Assistant

namespace Stage

def recordAll (stage : Stage σ) (log : List LogRecord) : Stage σ :=
  { stage with bench := { stage.bench with log := stage.bench.log ++ log } }

/-- A whole turn with a backend; it is asked only for a turn that waits. -/
def converse (backend : Backend κ) (observer : Observer σ) (context : TurnContext σ) (input : String)
    (stage : Stage σ) (state : κ) : StepOutcome × Stage σ × κ :=
  match stage.begin observer context input with
  | (.waiting, stage) =>
    match stage.asked.getLast? with
    | none => (.waiting, stage, state)
    | some request =>
      let answered := backend.answer state request context.inventory context.quoteLines
      let (outcome, stage) := (stage.recordAll answered.log).finish observer answered.answer
      (outcome, stage, answered.state)
  | (outcome, stage) => (outcome, stage, state)

end Stage

end QuoteDesk
