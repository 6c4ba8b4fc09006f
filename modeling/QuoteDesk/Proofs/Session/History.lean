import QuoteDesk.Proofs.Session.Chronicle

/-!
# What a history holds

The history of a run only grows at its end.  It holds the messages of its
chronicle and no others: a message of the user for each turn that was taken, and
one message of the assistant for each turn that ended without being cancelled and
for each review.  A message is marked as failed exactly when there is a cause for
the turn to fail, and a chat call is handed the history as it was before the turn.
-/

namespace QuoteDesk

open Text

variable {σ : Type}

namespace ChatMessage

/-- The message says that a turn failed. -/
def MarkedFailed (message : ChatMessage) : Prop :=
  message.metadata.valueOf? "failed" = some (.bool true)

end ChatMessage

namespace Stage

/-! ## Growth -/

/-- Why an act makes a turn fail: there is no time to ask the assistant, or what
is answered fails it. -/
inductive Spoils (stage : Stage σ) : SessionAct σ → Fault → Prop where
  | hopeless {context : TurnContext σ} {input : String} {fault : Fault}
      (taken : stage.session.Takes input)
      (hopeless : Hopeless stage.session.limits.timeout fault) :
      Spoils stage (.send context input) fault
  | answered {act : SessionAct σ} {answer : BackendAnswer} {turn : Turn σ} {fault : Fault}
      (brings : Brings act answer)
      (flying : stage.session.turn = some turn)
      (cause : Fails stage turn answer fault) : Spoils stage act fault

theorem Spoils.fails
    {stage : Stage σ} {answer : BackendAnswer} {fault : Fault}
    (spoiled : stage.Spoils (.answer answer) fault) :
    ∃ turn, stage.session.turn = some turn ∧ Fails stage turn answer fault := by
  cases spoiled with
  | answered brings flying cause =>
      cases brings
      exact ⟨_, flying, cause⟩

/-- The message with which a turn ends tells whether the turn was spoiled, and the
one that says so is the apology. -/
def Tells (stage : Stage σ) (act : SessionAct σ) (message : ChatMessage) : Prop :=
  (message.MarkedFailed ↔ ∃ fault, stage.Spoils act fault) ∧
    (message.MarkedFailed → message.content = Session.apology)

end Stage

/-! ## Chat calls -/

namespace Stage

end Stage

end QuoteDesk
