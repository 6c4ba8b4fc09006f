import QuoteDesk.Program
import QuoteDesk.Proofs.Console.Lines

/-!
# Sittings

A sitting takes lines one by one, up to the first that asks to leave, to the first that
the console has no answer to, or to the last.  The messages that reach the backend are
those of the lines taken, in their order.
-/

namespace QuoteDesk

open Text

variable {ρ κ : Type}

namespace Console

end Console

namespace Sitting

open Console

/-- The sitting after some lines were taken. -/
def after (backend : Backend κ) (sitting : Sitting ρ κ) (lines : List String) : Sitting ρ κ :=
  lines.foldl (fun sitting line => (sitting.ask.take backend line).2) sitting

/-- How the taking of lines ends, when the first of them were handled. -/
inductive Ends (backend : Backend κ) (sitting : Sitting ρ κ) (handled : List String) :
    List String → Ending → Prop
  | noMore : Ends backend sitting handled [] (.exits 0)
  | left {line : String} {later : List String} (quits : Quits line) :
      Ends backend sitting handled (line :: later) (.exits 0)
  | broken {line : String} {later : List String} {fault : Fault} (stays : ¬ Quits line)
      (puzzled : ¬ (sitting.after backend handled).console.Copes line) :
      Ends backend sitting handled (line :: later) (.fails fault)

theorem after_cons
    {backend : Backend κ} {sitting next : Sitting ρ κ} {line : String} {ending? : Option Ending}
    (taken : sitting.ask.take backend line = (ending?, next)) (lines : List String) :
    sitting.after backend (line :: lines) = next.after backend lines := by
  unfold after
  rw [List.foldl_cons, taken]

theorem Ends.cons
    {backend : Backend κ} {sitting next : Sitting ρ κ} {line : String} {handled rest : List String}
    {ending : Ending} (ended : Ends backend next handled rest ending)
    (onward : sitting.after backend (line :: handled) = next.after backend handled) :
    Ends backend sitting (line :: handled) rest ending := by
  cases ended with
  | noMore => exact .noMore
  | left quits => exact .left quits
  | broken stays puzzled => exact .broken stays (by rwa [onward])

/-- The sitting without the messages that were noted. -/
def unnoted (sitting : Sitting ρ (κ × List String)) : Sitting ρ κ :=
  ⟨sitting.host, sitting.console, sitting.state.1⟩

theorem ask_unnoted (sitting : Sitting ρ (κ × List String)) :
    sitting.unnoted.ask = sitting.ask.unnoted := rfl

theorem take_noting
    (backend : Backend κ) (sitting : Sitting ρ (κ × List String)) (line : String) :
    sitting.unnoted.take backend line =
      ((sitting.take backend.noting line).1, (sitting.take backend.noting line).2.unnoted) := by
  have handled : sitting.unnoted.console.handle backend line sitting.unnoted.state = _ :=
    handle_noting sitting.console backend line sitting.state
  unfold take
  rw [handled]
  generalize sitting.console.handle backend.noting line sitting.state = result
  rfl

theorem after_noting
    (backend : Backend κ) (sitting : Sitting ρ (κ × List String)) (lines : List String) :
    sitting.unnoted.after backend lines = (sitting.after backend.noting lines).unnoted := by
  induction lines generalizing sitting with
  | nil => rfl
  | cons line later inductionHypothesis =>
      rcases taken : sitting.ask.take backend.noting line with ⟨ending?, next⟩
      have takenUnnoted : sitting.unnoted.ask.take backend line = (ending?, next.unnoted) := by
        rw [ask_unnoted, take_noting, taken]
      rw [after_cons takenUnnoted, after_cons taken, inductionHypothesis]

theorem Ends.unnoted
    {backend : Backend κ} {sitting : Sitting ρ (κ × List String)} {handled rest : List String}
    {ending : Ending} (ended : Ends backend.noting sitting handled rest ending) :
    Ends backend sitting.unnoted handled rest ending := by
  cases ended with
  | noMore => exact .noMore
  | left quits => exact .left quits
  | broken stays puzzled => exact .broken stays (by rwa [after_noting])

end Sitting

end QuoteDesk
