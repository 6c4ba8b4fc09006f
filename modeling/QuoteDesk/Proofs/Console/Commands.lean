import QuoteDesk.Proofs.Chat.Commands
import QuoteDesk.Proofs.Console.Lines

/-!
# Commands at the console

A marked line never reaches the backend.  Only a command on the bill of materials under
review changes anything of the console.
-/

namespace QuoteDesk

open Text

namespace Console

variable {κ : Type} {console : Console} {line : String}

theorem writeOr_keeps (text : Except Fault String) (state : κ) :
    (console.writeOr text state).console = console ∧
      (console.writeOr text state).state = state := by
  cases text <;> exact ⟨rfl, rfl⟩

theorem bomStep_state (said : String) (step : StepOutcome × Stage WatchedQuote) (state : κ) :
    (console.bomStep said step state).state = state := by
  rcases step with ⟨⟨⟨⟩⟩ | _, stage⟩ <;> rfl

/-- A command is about the bill of materials under review. -/
def Reviews (command : ChatCommand) : Prop :=
  command = .addBom ∨ command = .dismissBom

theorem handleCommand_state (command : ChatCommand) (state : κ) :
    (console.handleCommand command state).state = state := by
  cases command with
  | quit => rfl
  | help => rfl
  | showQuote asJson => cases asJson <;> exact (writeOr_keeps _ state).2
  | addBom => exact bomStep_state _ _ state
  | dismissBom => exact bomStep_state _ _ state

theorem handleCommand_console {command : ChatCommand} (other : ¬ Reviews command) (state : κ) :
    (console.handleCommand command state).console = console := by
  cases command with
  | quit => rfl
  | help => rfl
  | showQuote asJson => cases asJson <;> exact (writeOr_keeps _ state).1
  | addBom => exact absurd (Or.inl rfl) other
  | dismissBom => exact absurd (Or.inr rfl) other

/-- Whatever a marked line asks for, the backend is left out of it. -/
theorem handle_of_marked
    (marked : ChatRequest.isMarked line = true) (backend : Backend κ) (state : κ) :
    (console.handle backend line state).state = state ∧
      ((console.handle backend line state).console = console ∨
        ∃ request, ChatRequest.read line = .ok (some request) ∧ Reviews request.command) := by
  have command : ChatRequest.read line ≠ .ok none := by
    rw [Ne, read_eq_ok_none_iff, marked]
    exact Bool.false_ne_true.symm
  unfold handle
  cases read : ChatRequest.read line with
  | error fault => exact ⟨rfl, Or.inl rfl⟩
  | ok request? =>
      cases request? with
      | none => exact absurd read command
      | some request =>
          refine ⟨handleCommand_state request.command state, ?_⟩
          by_cases reviews : Reviews request.command
          · exact Or.inr ⟨request, rfl, reviews⟩
          · exact Or.inl (handleCommand_console reviews state)

/-- Only a line without a mark is no command.  Of any other line the text behind the mark
alone tells what it asks for or what is wrong with it; and the console deals with it without
the backend, unchanged but for what a review of the bill of materials does. -/
theorem handle_marked_stays :
    (∀ line, (ChatRequest.read line = .ok none ↔ ChatRequest.isMarked line = false) ∧
        (ChatRequest.isMarked line = true ↔ ∃ rest, ChatRequest.Marks line rest)) ∧
      (∀ line rest, ChatRequest.Marks line rest →
        ChatRequest.ReadsAs line (trim rest) (ChatRequest.read line)) ∧
      (∀ line other rest, ChatRequest.Marks line rest → ChatRequest.Marks other rest →
        (ChatRequest.read line).map (Option.map ChatRequest.command) =
          (ChatRequest.read other).map (Option.map ChatRequest.command)) ∧
      ∀ (κ : Type) (backend : Backend κ) (console : Console) (line : String) (state : κ)
        (asked : List String), ChatRequest.isMarked line = true →
        (console.handle backend.noting line (state, asked)).state = (state, asked) ∧
          ((console.handle backend.noting line (state, asked)).console = console ∨
            ∃ request, ChatRequest.read line = .ok (some request) ∧ Reviews request.command) :=
  ⟨fun _ => ⟨read_eq_ok_none_iff, ChatRequest.isMarked_iff⟩,
    fun _ _ marks => marks.reads,
    fun _ _ _ marks otherMarks => marks.read_same otherMarks,
    fun _ backend _ _ state asked marked => handle_of_marked marked backend.noting (state, asked)⟩

/-- The same request behind two marks, among other blanks; neither line reaches a backend. -/
theorem handle_marked_stays_dismissal :
    (ChatRequest.Marks "/bom 'dismiss'" "bom 'dismiss'".toList ∧
        ChatRequest.Marks " ::  bom 'dismiss'\t" "bom 'dismiss'".toList) ∧
      (ChatRequest.read "/bom 'dismiss'").map (Option.map ChatRequest.command) =
        (ChatRequest.read " ::  bom 'dismiss'\t").map (Option.map ChatRequest.command) ∧
      (Console.handle (Backend.noting ⟨fun state _ _ _ => ⟨.reply (.text "Hello"), [], state⟩⟩)
        (.start ⟨.int 100, .null⟩ []) " ::  bom 'dismiss'\t" ((), [])).state = ((), []) := by
  have marks : ChatRequest.Marks "/bom 'dismiss'" "bom 'dismiss'".toList :=
    ⟨[], ['/'], [], [], List.all_eq_true.mp rfl, by decide, rfl⟩
  have otherMarks : ChatRequest.Marks " ::  bom 'dismiss'\t" "bom 'dismiss'".toList :=
    ⟨[' '], [':', ':'], [' ', ' '], ['\t'], List.all_eq_true.mp rfl, by decide, rfl⟩
  obtain ⟨told, -, same, stays⟩ := handle_marked_stays
  have marked := (told " ::  bom 'dismiss'\t").2.mpr ⟨_, otherMarks⟩
  exact ⟨⟨marks, otherMarks⟩, same _ _ _ marks otherMarks,
    (stays Unit ⟨fun state _ _ _ => ⟨.reply (.text "Hello"), [], state⟩⟩
      (.start ⟨.int 100, .null⟩ []) _ () [] marked).1⟩

end Console

end QuoteDesk
