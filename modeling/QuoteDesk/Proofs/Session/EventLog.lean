import QuoteDesk.Proofs.Session.Courses
import QuoteDesk.Proofs.Session.Marks

/-!
# The events are a faithful log

What is told besides the marks of turns belongs to the turn that was started last,
or is the end of a review.  The changes of the mode lead from chat to the mode of
the session.  A review is announced exactly when it is entered, with the number of
lines to review.
-/

namespace QuoteDesk

open Text

variable {σ : Type}

/-! ## Events between the marks -/

/-- What may be told behind a mark: executed directives of the chat turn that was
started, changes and announcements of the building turn that was started, and at
any time the end of a review. -/
inductive SessionEvent.Belongs : Option TurnMark → SessionEvent → Prop
  | reviewEnded {latest : Option TurnMark} : Belongs latest (.modeChanged .bomPreview .chat)
  | executed {number : Nat} {commands : List Command} :
      Belongs (some (.started number false)) (.directivesExecuted number commands)
  | changed {number : Nat} {previous current : SessionMode} :
      Belongs (some (.started number true)) (.modeChanged previous current)
  | ready {number lines : Nat} : Belongs (some (.started number true)) (.bomReady lines)

/-- Every event that is no mark belongs behind the latest mark before it. -/
def Orderly : Option TurnMark → List SessionEvent → Prop
  | _, [] => True
  | latest, event :: later =>
      match event.turnMark? with
      | some mark => Orderly (some mark) later
      | none => event.Belongs latest ∧ Orderly latest later

theorem orderly_append {latest : Option TurnMark} {first second : List SessionEvent} :
    Orderly latest (first ++ second) ↔
      Orderly latest first ∧ Orderly ((marksOf first).getLast?.or latest) second := by
  induction first generalizing latest with
  | nil => simp [Orderly, marksOf]
  | cons event later inductionHypothesis =>
      rw [List.cons_append, Orderly, Orderly, marksOf, List.filterMap_cons]
      cases event.turnMark? with
      | none =>
          simp only [inductionHypothesis, and_assoc]
          rfl
      | some mark =>
          simp only [inductionHypothesis, List.getLast?_cons, Option.some_or, marksOf]
          cases (later.filterMap SessionEvent.turnMark?).getLast? <;> rfl

/-! ## Changes of the mode -/

def SessionEvent.modeChange? : SessionEvent → Option (SessionMode × SessionMode)
  | .modeChanged previous current => some (previous, current)
  | .turnStarted _ _ => none
  | .directivesExecuted _ _ => none
  | .turnCompleted _ _ => none
  | .turnFailed _ _ => none
  | .bomReady _ => none

/-- Changes that lead from a mode to a mode, each of them to another mode and each
from where the one before it led. -/
inductive Trail : SessionMode → List (SessionMode × SessionMode) → SessionMode → Prop
  | nil {mode : SessionMode} : Trail mode [] mode
  | cons {first second last : SessionMode} {changes : List (SessionMode × SessionMode)} :
      first ≠ second → Trail second changes last → Trail first ((first, second) :: changes) last

theorem Trail.append
    {first second last : SessionMode} {before after : List (SessionMode × SessionMode)}
    (start : Trail first before second) (rest : Trail second after last) :
    Trail first (before ++ after) last := by
  induction start with
  | nil => exact rest
  | cons differs _ inductionHypothesis => exact .cons differs (inductionHypothesis rest)

def changesOf (events : List SessionEvent) : List (SessionMode × SessionMode) :=
  events.filterMap SessionEvent.modeChange?

@[simp]
theorem changesOf_append (first second : List SessionEvent) :
    changesOf (first ++ second) = changesOf first ++ changesOf second :=
  List.filterMap_append

theorem trail_modeChange (previous current : SessionMode) :
    Trail previous (changesOf (modeChange previous current)) current := by
  unfold modeChange
  by_cases same : previous = current
  · rw [if_pos same, same]
    exact .nil
  · rw [if_neg same]
    exact .cons same .nil

@[simp]
theorem changesOf_announcement (turn : Turn σ) (executed : List Command) :
    changesOf (turn.announcement executed) = [] := by
  unfold Turn.announcement
  split <;> rfl

namespace Session

theorem trail_leaving (session : Session σ) :
    Trail session.mode (changesOf session.leaving) session.abandoned.mode := by
  unfold leaving abandoned
  by_cases building : session.mode = .building
  · rw [if_pos building, if_pos building, building]
    exact .cons nofun .nil
  · rw [if_neg building, if_neg building]
    exact .nil

theorem trail_failing (session : Session σ) (turn : Turn σ) (fault : Fault) :
    Trail session.mode (changesOf (session.failing turn fault)) (session.failed turn).mode := by
  rw [failing, changesOf_append]
  exact (trail_leaving session).append .nil

theorem trail_opening (session : Session σ) (turn : Turn σ) :
    Trail session.mode (changesOf (session.opening turn)) (session.opened turn).mode := by
  unfold opening opened
  by_cases building : turn.building
  · rw [if_pos building, if_pos building]
    exact trail_modeChange session.mode .building
  · rw [if_neg building, if_neg building]
    exact .nil

theorem trail_presenting (session : Session σ) (bom : Bom) :
    Trail session.mode (changesOf (session.presenting bom)) (session.reviewing bom).mode := by
  unfold presenting reviewing
  by_cases nothing : bom.lines.isEmpty
  · rw [if_pos nothing, if_pos nothing]
    exact trail_modeChange session.mode .chat
  · rw [if_neg nothing, if_neg nothing, changesOf_append]
    exact (trail_modeChange session.mode .bomPreview).append .nil

end Session

/-- The changes of mode told by one act lead from the mode before it to the mode after it. -/
theorem Stage.Moves.trail
    {stage after : Stage σ} {act : SessionAct σ} {outcome : StepOutcome}
    (moves : stage.Moves act outcome after) :
    Trail stage.session.mode (changesOf (Occurrence.told ⟨stage, act, outcome, after⟩))
      after.session.mode := by
  cases moves with
  | stays _ _ leads =>
      rw [leads.told, leads.reaches]
      exact .nil
  | waits _ _ leads =>
      rw [leads.told, leads.reaches]
      exact stage.session.trail_opening _
  | expires _ _ _ leads =>
      rw [leads.told, leads.reaches, changesOf_append]
      exact (stage.session.trail_opening _).append (Session.trail_failing _ _ _)
  | fails _ _ _ leads =>
      rw [leads.told, leads.reaches]
      exact stage.session.trail_failing _ _
  | replies _ _ _ _ _ leads =>
      rw [leads.told, leads.reaches, changesOf_append, changesOf_announcement]
      exact .nil
  | analyses _ _ _ _ leads =>
      rw [leads.told, leads.reaches, changesOf_append]
      exact (Session.trail_presenting (stage.session.saying _) _).append .nil
  | cancels _ leads =>
      rw [leads.told, leads.reaches]
      exact stage.session.trail_leaving
  | adds _ _ _ _ _ leads =>
      rw [leads.told, leads.reaches]
      exact trail_modeChange _ _
  | dismisses _ leads =>
      rw [leads.told, leads.reaches]
      exact trail_modeChange _ _

/-! ## Starts and ends of turns -/

namespace Stage

theorem Moves.starts
    {stage after : Stage σ} {act : SessionAct σ} {outcome : StepOutcome}
    {context : TurnContext σ} {input : String}
    (moves : stage.Moves act outcome after) (sent : act = .send context input)
    (taken : stage.session.Takes input) :
    ∃ number later, Occurrence.told ⟨stage, act, outcome, after⟩ =
      .turnStarted number (Message.isBuildingRequest (trimText input)) :: later := by
  have kind : ∀ turn, turn = stage.session.nextTurn context (trimText input) →
      turn.building = Message.isBuildingRequest (trimText input) := by
    rintro turn rfl
    simp only [Session.nextTurn]
  cases moves with
  | stays _ untaken => exact absurd taken (untaken context input sent)
  | @waits _ _ turn _ _ next leads =>
      cases sent
      rw [leads.told, ← kind turn next]
      exact ⟨turn.number, _, rfl⟩
  | @expires _ _ turn _ _ _ next _ leads =>
      cases sent
      rw [leads.told, ← kind turn next]
      exact ⟨turn.number, _, rfl⟩
  | fails brings =>
      cases sent
      cases brings
  | replies | analyses | cancels | adds | dismisses => cases sent

theorem Moves.ends
    {stage after : Stage σ} {act : SessionAct σ} {outcome : StepOutcome} {turn : Turn σ}
    {answer : BackendAnswer}
    (moves : stage.Moves act outcome after) (flying : stage.session.turn = some turn)
    (brings : Brings act answer) (carried : ¬ outcome.Quiet) :
    marksOf (Occurrence.told ⟨stage, act, outcome, after⟩) = [.failed turn.number] ∨
      ∃ text, marksOf (Occurrence.told ⟨stage, act, outcome, after⟩) =
        [.completed turn.number text] := by
  cases moves with
  | stays quiet => exact absurd quiet carried
  | fails _ otherFlying _ leads =>
      cases flying.symm.trans otherFlying
      rw [leads.told, Session.marksOf_failing]
      exact Or.inl rfl
  | replies otherFlying _ _ _ _ leads =>
      cases flying.symm.trans otherFlying
      rw [leads.told, marksOf_append, marksOf_announcement]
      exact Or.inr ⟨_, rfl⟩
  | analyses otherFlying _ _ _ leads =>
      cases flying.symm.trans otherFlying
      rw [leads.told, marksOf_append, Session.marksOf_presenting]
      exact Or.inr ⟨_, rfl⟩
  | waits | expires | cancels | adds | dismisses => cases brings

end Stage

/-! ## Announced reviews -/

namespace Session

end Session

namespace Stage

end Stage

/-! ## Order of what is told -/

namespace Session

variable {session : Session σ} {turn : Turn σ}

theorem Sound.orderly_leaving
    (sound : session.Sound) (flying : session.turn = some turn) :
    Orderly (some (.started turn.number turn.building)) session.leaving := by
  unfold leaving
  by_cases analysing : session.mode = .building
  · obtain ⟨other, otherFlying, building⟩ := sound.analyses.1 analysing
    cases flying.symm.trans otherFlying
    rw [if_pos analysing, building]
    exact ⟨.changed, trivial⟩
  · rw [if_neg analysing]
    trivial

theorem Sound.orderly_failing
    (sound : session.Sound) (flying : session.turn = some turn) (fault : Fault) :
    Orderly (some (.started turn.number turn.building)) (session.failing turn fault) :=
  orderly_append.2 ⟨sound.orderly_leaving flying, trivial⟩

theorem orderly_opening (latest : Option TurnMark) (session : Session σ) (turn : Turn σ) :
    Orderly latest (session.opening turn) := by
  have changes : Orderly (some (.started turn.number turn.building))
      (if turn.building then modeChange session.mode .building else []) := by
    by_cases building : turn.building
    · rw [if_pos building, building, modeChange]
      split
      · trivial
      · exact ⟨.changed, trivial⟩
    · rw [if_neg building]
      trivial
  exact changes

theorem orderly_presenting
    (session : Session σ) (bom : Bom) (number : Nat) :
    Orderly (some (.started number true)) (session.presenting bom) := by
  have changes : ∀ current,
      Orderly (some (.started number true)) (modeChange session.mode current) := by
    intro current
    unfold modeChange
    split
    · trivial
    · exact ⟨.changed, trivial⟩
  unfold presenting
  split
  · exact changes .chat
  · refine orderly_append.2 ⟨changes .bomPreview, ?_⟩
    rw [marksOf_modeChange]
    exact ⟨.ready, trivial⟩

theorem Sound.orderly_ended
    (sound : session.Sound) (idle : session.turn = none) (latest : Option TurnMark) :
    Orderly latest (modeChange session.mode .chat) := by
  cases mode : session.mode with
  | chat => trivial
  | building => exact absurd mode (sound.mode_ne_building_of_idle idle)
  | bomPreview => exact ⟨.reviewEnded, trivial⟩

end Session

theorem Turn.orderly_announcement
    {turn : Turn σ} (chat : turn.building = false) (executed : List Command) :
    Orderly (some (.started turn.number turn.building)) (turn.announcement executed) := by
  unfold Turn.announcement
  split
  · trivial
  · rw [chat]
    exact ⟨.executed, trivial⟩

/-- What an act tells is in order behind the marks of the chronicle. -/
theorem Stage.Moves.orderly
    {chronicle : Chronicle} {stage after : Stage σ} {act : SessionAct σ} {outcome : StepOutcome}
    (moves : stage.Moves act outcome after) (sound : stage.session.Sound)
    (numbers : chronicle.Numbers stage.session) (agrees : chronicle.Agrees stage.session) :
    Orderly chronicle.marks.getLast? (Occurrence.told ⟨stage, act, outcome, after⟩) := by
  have latest := fun turn => @chronicle.getLast?_marks_of_flying _ _ turn numbers agrees sound
  cases moves with
  | stays _ _ leads =>
      rw [leads.told]
      trivial
  | waits _ _ leads =>
      rw [leads.told]
      exact Session.orderly_opening _ stage.session _
  | @expires context input turn fault _ taken next _ leads =>
      have classified : turn.building = Message.isBuildingRequest turn.message := by
        rw [next]
        exact Session.nextTurn_classified stage.session context (trimText input)
      have opened := sound.opened taken.1 classified
      rw [leads.told, orderly_append, Session.marksOf_opening]
      exact ⟨Session.orderly_opening _ stage.session turn,
        opened.orderly_failing (Session.opened_turn _ _) fault⟩
  | fails _ flying _ leads =>
      rw [leads.told, latest _ flying]
      exact sound.orderly_failing flying _
  | replies flying chat _ _ _ leads =>
      rw [leads.told, latest _ flying, orderly_append]
      exact ⟨Turn.orderly_announcement chat _, trivial⟩
  | analyses flying building _ _ leads =>
      rw [leads.told, latest _ flying, building, orderly_append]
      exact ⟨Session.orderly_presenting stage.session _ _, trivial⟩
  | cancels flying leads =>
      rw [leads.told, latest _ flying]
      exact sound.orderly_leaving flying
  | adds idle _ _ _ _ leads =>
      rw [leads.told]
      exact sound.orderly_ended idle _
  | dismisses idle leads =>
      rw [leads.told]
      exact sound.orderly_ended idle _

/-! ## The log of a run -/

/-- The chronicle, the session and the events of a stage tell the same. -/
structure Stage.Logged (stage : Stage σ) (chronicle : Chronicle) : Prop where
  agrees : chronicle.Agrees stage.session
  numbers : chronicle.Numbers stage.session
  sound : stage.session.Sound
  marks : marksOf stage.events = chronicle.marks
  orderly : Orderly none stage.events
  trail : Trail .chat (changesOf stage.events) stage.session.mode

namespace Stage

theorem Logged.noting
    {stage after : Stage σ} {chronicle : Chronicle} {act : SessionAct σ} {outcome : StepOutcome}
    (logged : stage.Logged chronicle) (moves : stage.Moves act outcome after) :
    after.Logged (chronicle.noting ⟨stage, act, outcome, after⟩) where
  agrees := logged.agrees.noting moves
  numbers := logged.numbers.noting logged.agrees moves
  sound := logged.sound.of_moves moves
  marks := by
    rw [moves.events, marksOf_append, logged.marks,
      Chronicle.noting_marks logged.numbers logged.agrees moves]
  orderly := by
    rw [moves.events, orderly_append, logged.marks, Option.or_none]
    exact ⟨logged.orderly, moves.orderly logged.sound logged.numbers logged.agrees⟩
  trail := by
    rw [moves.events, changesOf_append]
    exact logged.trail.append moves.trail

end Stage

end QuoteDesk
