import QuoteDesk.Proofs.Console.Showing
import QuoteDesk.Proofs.Session.Conversing
import QuoteDesk.Proofs.Session.Judging

/-!
# Lines at the console

A line is dealt with in one of three ways: the console goes on, it is left, or it breaks
down.  It breaks down only on a line that asks for something it has no answer to: a quote
that cannot be shown, a bill of materials that cannot be judged, or a message whose
refusal cannot be put in words.
-/

namespace QuoteDesk

open Number Text

namespace Console

variable {κ : Type} {console : Console} {line : String} {maxChars : Int} {timeout : Value}

/-! ## What becomes of a line -/

/-- Nothing is in flight, and the limits are as given. -/
structure Rests (limits : SessionLimits) (console : Console) : Prop where
  idle : console.stage.session.turn = none
  limits : console.stage.session.limits = limits

/-- A line that asks to leave. -/
def Quits (line : String) : Prop :=
  ∃ request, ChatRequest.read line = .ok (some request) ∧ request.command = .quit

/-- The console has an answer to a command. -/
def Answers (console : Console) : ChatCommand → Prop
  | .showQuote _ => console.quote.Showable
  | .addBom => ∀ bom, console.stage.session.pending = some bom →
      (∀ line ∈ bom.lines, line.Judgeable) ∧
        ∃ catalog, Reply.catalogOf (.list console.inventory) = .ok catalog
  | _ => True

/-- The console has an answer to a line. -/
def Copes (console : Console) (line : String) : Prop :=
  match ChatRequest.read line with
  | .error _ => True
  | .ok (some request) => console.Answers request.command
  | .ok none => (trimText line).isEmpty = false → ∀ fault,
      Session.checkMessage console.stage.session.limits (trimText line) = .error fault →
        ∃ refusal, fault = .session refusal

theorem Rests.of_moves
    {limits : SessionLimits} {act : SessionAct WatchedQuote} {outcome : StepOutcome}
    {after : Stage WatchedQuote} (rests : console.Rests limits)
    (moves : console.stage.Moves act outcome after) (settled : outcome ≠ .waiting) :
    Rests limits { console with stage := after } :=
  ⟨moves.idle_of_settled rests.idle settled, moves.limits_eq.trans rests.limits⟩

theorem read_eq_ok_none_iff :
    ChatRequest.read line = .ok none ↔ ChatRequest.isMarked line = false := by
  unfold ChatRequest.isMarked ChatRequest.read
  cases ChatCommand.behindMark? (trim line.toList) with
  | none => exact iff_of_true rfl rfl
  | some body =>
      dsimp only
      refine iff_of_false ?_ ?_
      · cases ChatCommand.read body <;> rintro ⟨⟩
      · rintro ⟨⟩

end Console

/-! ## Without the notes -/

/-- What a line leads to, without the messages that were noted. -/
def LineResult.unnoted {κ : Type} (result : LineResult (κ × List String)) : LineResult κ :=
  ⟨result.outcome, result.written, result.console, result.state.1⟩

namespace Console

variable {κ : Type}

theorem handleCommand_noting
    (console : Console) (command : ChatCommand) (state : κ × List String) :
    console.handleCommand command state.1 = (console.handleCommand command state).unnoted := by
  have writes (text : Except Fault String) :
      console.writeOr text state.1 = (console.writeOr text state).unnoted := by
    cases text <;> rfl
  have reviews (said : String) (step : StepOutcome × Stage WatchedQuote) :
      console.bomStep said step state.1 = (console.bomStep said step state).unnoted := by
    rcases step with ⟨⟨⟨⟩⟩ | _, stage⟩ <;> rfl
  cases command with
  | quit => rfl
  | help => rfl
  | showQuote asJson => cases asJson <;> exact writes _
  | addBom => exact reviews _ _
  | dismissBom => exact reviews _ _

theorem handleTurn_noting
    (console : Console) (backend : Backend κ) (line : String) (state : κ × List String) :
    console.handleTurn backend line state.1 =
      (console.handleTurn backend.noting line state).unnoted := by
  unfold handleTurn
  rw [Stage.converse_noting]
  rcases console.stage.converse backend.noting WatchedQuote.observer console.context line state
    with ⟨outcome, stage, reached⟩
  rcases outcome with ⟨⟨⟩⟩ | _ <;> rfl

theorem handle_noting
    (console : Console) (backend : Backend κ) (line : String) (state : κ × List String) :
    console.handle backend line state.1 = (console.handle backend.noting line state).unnoted := by
  unfold handle
  cases ChatRequest.read line with
  | error fault => rfl
  | ok request =>
      cases request with
      | none => exact handleTurn_noting console backend line state
      | some request => exact handleCommand_noting console request.command state

end Console

end QuoteDesk
