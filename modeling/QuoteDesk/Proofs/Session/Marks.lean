import QuoteDesk.Proofs.Session.History
import QuoteDesk.Proofs.Session.Modes

/-!
# The marks of turns

The events of a run are what its acts tell, one after the other.  Some of them mark
the start or the end of a turn.  These marks are the ones that the chronicle gives:
each turn under its own number, from its start to its end, and none between the two.
-/

namespace QuoteDesk

open Text

variable {σ : Type}

/-! ## What an act tells -/

/-- The events published while an act was carried out. -/
def Occurrence.told (occurred : Occurrence σ) : List SessionEvent :=
  occurred.after.events.drop occurred.before.events.length

namespace Stage

theorem Leads.told
    {stage after : Stage σ} {session : Session σ} {events : List SessionEvent}
    {requests : List BackendRequest}
    (leads : stage.Leads after session events requests)
    (act : SessionAct σ) (outcome : StepOutcome) :
    Occurrence.told ⟨stage, act, outcome, after⟩ = events := by
  simp only [Occurrence.told, leads.tells, List.drop_left]

/-- Every act leads somewhere, with what it tells and what it asks for on the way. -/
theorem Moves.exists_leads
    {stage after : Stage σ} {act : SessionAct σ} {outcome : StepOutcome}
    (moves : stage.Moves act outcome after) :
    ∃ session events requests, stage.Leads after session events requests := by
  cases moves with
  | stays _ _ leads => exact ⟨_, _, _, leads⟩
  | waits _ _ leads => exact ⟨_, _, _, leads⟩
  | expires _ _ _ leads => exact ⟨_, _, _, leads⟩
  | fails _ _ _ leads => exact ⟨_, _, _, leads⟩
  | replies _ _ _ _ _ leads => exact ⟨_, _, _, leads⟩
  | analyses _ _ _ _ leads => exact ⟨_, _, _, leads⟩
  | cancels _ leads => exact ⟨_, _, _, leads⟩
  | adds _ _ _ _ _ leads => exact ⟨_, _, _, leads⟩
  | dismisses _ leads => exact ⟨_, _, _, leads⟩

theorem Moves.events
    {stage after : Stage σ} {act : SessionAct σ} {outcome : StepOutcome}
    (moves : stage.Moves act outcome after) :
    after.events = stage.events ++ Occurrence.told ⟨stage, act, outcome, after⟩ := by
  obtain ⟨_, _, _, leads⟩ := moves.exists_leads
  rw [leads.told, leads.tells]

/-- The events of a run are what its acts told, in order. -/
theorem run_events
    (observer : Observer σ) (stage : Stage σ) (acts : List (SessionAct σ)) :
    (stage.run observer acts).events =
      stage.events ++ (stage.occurrences observer acts).flatMap Occurrence.told := by
  induction acts generalizing stage with
  | nil => exact (List.append_nil _).symm
  | cons act later inductionHypothesis =>
      have first := (perform_moves observer stage act).events
      rw [run_cons, inductionHypothesis, first, occurrences_cons, List.flatMap_cons,
        List.append_assoc]
      rfl

end Stage

/-! ## The marks of turns -/

/-- What an event says about turns: one has started, or it has ended. -/
inductive TurnMark where
  | started (number : Nat) (building : Bool)
  | completed (number : Nat) (text : String)
  | failed (number : Nat)

def SessionEvent.turnMark? : SessionEvent → Option TurnMark
  | .turnStarted number building => some (.started number building)
  | .turnCompleted number text => some (.completed number text)
  | .turnFailed number _ => some (.failed number)
  | .directivesExecuted _ _ => none
  | .modeChanged _ _ => none
  | .bomReady _ => none

namespace TurnMark

/-- The mark at the end of a turn, by the message with which it ended. -/
def ofReply (number : Nat) (reply : ChatMessage) : TurnMark :=
  match reply.metadata.valueOf? "failed" with
  | some (.bool true) => .failed number
  | _ => .completed number reply.content

/-- The marks of a turn with its number: its start and, unless it was cancelled, its
end. -/
def ofTurn : (String × Option ChatMessage) × Nat → List TurnMark
  | ((message, reply), number) =>
      .started number (Message.isBuildingRequest message) ::
        (reply.map (ofReply number)).toList

theorem ofReply_turnMessage
    (number : Nat) (turn : Turn σ) (content : String) {key : String} {value : Value}
    (other : key ≠ "failed") :
    ofReply number (Stage.turnMessage turn content [(key, value)]) =
      .completed number content := by
  have named : "failed" ≠ "turn_id" := by decide
  simp only [ofReply, Stage.turnMessage, Entries.valueOf?_cons, named, Ne.symm other, if_false,
    Entries.valueOf?_nil]

end TurnMark

/-- The message of a turn with what was said to it, if a chapter is a turn. -/
def Chapter.turn? : Chapter → Option (String × Option ChatMessage)
  | .turn message reply => some (message, reply)
  | .review _ => none

namespace Chronicle

def turns (chronicle : Chronicle) : List (String × Option ChatMessage) :=
  chronicle.chapters.filterMap Chapter.turn?

/-- The marks of all turns, numbered from one, and the start of the one in flight. -/
def marks (chronicle : Chronicle) : List TurnMark :=
  (chronicle.turns.zipIdx 1).flatMap TurnMark.ofTurn ++
    (chronicle.inFlight.map fun message =>
      .started (chronicle.turns.length + 1) (Message.isBuildingRequest message)).toList

theorem closing_turns
    {chronicle : Chronicle} {message : String}
    (flying : chronicle.inFlight = some message) (reply : Option ChatMessage) :
    (chronicle.closing reply).turns = chronicle.turns ++ [(message, reply)] := by
  simp only [turns, closing, flying, List.filterMap_append]
  rfl

theorem reviewing_turns (chronicle : Chronicle) (message : ChatMessage) :
    (chronicle.reviewing message).turns = chronicle.turns := by
  simp only [turns, reviewing, List.filterMap_append]
  exact List.append_nil _

theorem taking_marks
    {chronicle : Chronicle} (idle : chronicle.inFlight = none) (message : String) :
    (chronicle.taking message).marks =
      chronicle.marks ++
        [.started (chronicle.turns.length + 1) (Message.isBuildingRequest message)] := by
  have same : (chronicle.taking message).turns = chronicle.turns := rfl
  have flying : (chronicle.taking message).inFlight = some message := rfl
  rw [marks, marks, same, flying, idle, Option.map_none, Option.map_some, Option.toList_none,
    Option.toList_some, List.append_nil]

theorem closing_marks
    {chronicle : Chronicle} {message : String}
    (flying : chronicle.inFlight = some message) (reply : Option ChatMessage) :
    (chronicle.closing reply).marks =
      chronicle.marks ++
        (reply.map (TurnMark.ofReply (chronicle.turns.length + 1))).toList := by
  rw [marks, marks, closing_turns flying, closing_inFlight, flying, List.zipIdx_append,
    List.flatMap_append, Nat.add_comm 1, Option.map_none, Option.map_some, Option.toList_none,
    Option.toList_some, List.append_nil, List.append_assoc]
  simp only [List.zipIdx_singleton, List.flatMap_singleton, TurnMark.ofTurn,
    List.singleton_append]

theorem reviewing_marks (chronicle : Chronicle) (message : ChatMessage) :
    (chronicle.reviewing message).marks = chronicle.marks := by
  have same : (chronicle.reviewing message).inFlight = chronicle.inFlight := rfl
  rw [marks, marks, reviewing_turns, same]

/-- The turns of a session have the numbers that the chronicle gives them. -/
structure Numbers (chronicle : Chronicle) (session : Session σ) : Prop where
  idle : session.turn = none → session.turns = chronicle.turns.length
  flying : ∀ turn, session.turn = some turn →
    turn.number = chronicle.turns.length + 1 ∧ session.turns = turn.number

end Chronicle

namespace Session

theorem abandoned_landed_turns (session : Session σ) :
    session.abandoned.landed.turns = session.turns := by
  unfold abandoned
  split <;> rfl

theorem failed_turns (session : Session σ) (turn : Turn σ) :
    (session.failed turn).turns = session.turns :=
  session.abandoned_landed_turns

theorem reviewing_landed_turns (session : Session σ) (bom : Bom) :
    (session.reviewing bom).landed.turns = session.turns := by
  unfold reviewing
  split <;> rfl

theorem opened_turns (session : Session σ) (turn : Turn σ) :
    (session.opened turn).turns = turn.number := by
  unfold opened
  split <;> rfl

end Session

namespace Chronicle

namespace Numbers

variable {chronicle : Chronicle} {session : Session σ}

theorem taking
    (numbers : chronicle.Numbers session) (idle : session.turn = none)
    {turn : Turn σ} (next : turn.number = session.turns + 1) (message : String) :
    (chronicle.taking message).Numbers (session.opened turn) where
  idle := by
    intro landed
    rw [Session.opened_turn] at landed
    cases landed
  flying := by
    intro other flying
    rw [Session.opened_turn] at flying
    cases flying
    refine ⟨?_, Session.opened_turns session turn⟩
    rw [next, numbers.idle idle]
    rfl

theorem closing
    {turn : Turn σ} {ended : Session σ} {message : String}
    (numbers : chronicle.Numbers session) (flying : session.turn = some turn)
    (taken : chronicle.inFlight = some message) (reply : Option ChatMessage)
    (counted : ended.turns = session.turns) (landed : ended.turn = none) :
    (chronicle.closing reply).Numbers ended where
  idle := by
    intro _
    obtain ⟨number, count⟩ := numbers.flying turn flying
    rw [counted, count, number, closing_turns taken, List.length_append]
    rfl
  flying := by
    intro other otherFlying
    rw [landed] at otherFlying
    cases otherFlying

theorem of_idle
    (idle : session.turn = none) (counted : session.turns = chronicle.turns.length) :
    chronicle.Numbers session where
  idle := fun _ => counted
  flying := by
    intro turn flying
    rw [idle] at flying
    cases flying

theorem noting
    {stage after : Stage σ} {act : SessionAct σ} {outcome : StepOutcome}
    (numbers : chronicle.Numbers stage.session) (agrees : chronicle.Agrees stage.session)
    (moves : stage.Moves act outcome after) :
    (chronicle.noting ⟨stage, act, outcome, after⟩).Numbers after.session := by
  cases moves with
  | stays quiet _ leads =>
      rw [noting_of_quiet quiet, leads.reaches]
      exact numbers
  | waits taken next leads =>
      rw [leads.reaches]
      exact numbers.taking taken.1 (congrArg Turn.number next) _
  | @expires context input turn _ _ taken next _ leads =>
      rw [leads.reaches]
      have begun := numbers.taking taken.1 (congrArg Turn.number next) (trimText input)
      exact begun.closing (Session.opened_turn _ _) rfl _ (Session.failed_turns _ turn) rfl
  | @fails _ _ turn _ _ brings flying _ leads =>
      rw [leads.reaches]
      have taken := agrees.inFlight_of_flying flying
      have counted := Session.failed_turns stage.session turn
      cases brings with
      | answer => exact numbers.closing flying taken _ counted rfl
      | timeOut => exact numbers.closing flying taken _ counted rfl
  | @replies _ _ _ _ message _ flying _ _ _ _ leads =>
      rw [leads.reaches]
      have counted : (stage.session.saying message).landed.turns = stage.session.turns := rfl
      exact numbers.closing flying (agrees.inFlight_of_flying flying) _ counted rfl
  | @analyses analysis _ _ message _ flying _ _ _ leads =>
      rw [leads.reaches]
      have counted := Session.reviewing_landed_turns (stage.session.saying message) analysis.bom
      exact numbers.closing flying (agrees.inFlight_of_flying flying) _ counted rfl
  | cancels flying leads =>
      rw [leads.reaches]
      have counted := Session.abandoned_landed_turns stage.session
      exact numbers.closing flying (agrees.inFlight_of_flying flying) _ counted rfl
  | @adds _ _ _ _ _ message _ idle _ _ _ _ leads =>
      rw [leads.reaches]
      have counted := numbers.idle idle
      rw [← reviewing_turns chronicle message] at counted
      exact of_idle idle counted
  | dismisses idle leads =>
      rw [leads.reaches]
      exact of_idle idle (numbers.idle idle)

end Numbers

end Chronicle

/-! ## What is read off the events -/

section Reading

variable {β : Type} {read : SessionEvent → Option β}

/-- Nothing is read off the changes of the mode. -/
def PassesModes (read : SessionEvent → Option β) : Prop :=
  ∀ previous current, read (.modeChanged previous current) = none

theorem filterMap_one (read : SessionEvent → Option β) (event : SessionEvent) :
    [event].filterMap read = (read event).toList := by
  rw [List.filterMap_cons, List.filterMap_nil]
  cases read event <;> rfl

namespace PassesModes

theorem modeChange (passes : PassesModes read) (previous current : SessionMode) :
    (modeChange previous current).filterMap read = [] := by
  unfold QuoteDesk.modeChange
  split
  · rfl
  · exact List.filterMap_cons_none (passes previous current)

theorem leaving (passes : PassesModes read) (session : Session σ) :
    session.leaving.filterMap read = [] := by
  unfold Session.leaving
  split
  · exact List.filterMap_cons_none (passes .building .chat)
  · rfl

theorem failing
    (passes : PassesModes read) (session : Session σ) (turn : Turn σ) (fault : Fault) :
    (session.failing turn fault).filterMap read =
      (read (.turnFailed turn.number fault.line)).toList := by
  rw [Session.failing, List.filterMap_append, passes.leaving, List.nil_append, filterMap_one]

theorem opening (passes : PassesModes read) (session : Session σ) (turn : Turn σ) :
    (session.opening turn).filterMap read =
      (read (.turnStarted turn.number turn.building)).toList := by
  have changes : (if turn.building then QuoteDesk.modeChange session.mode .building
      else []).filterMap read = [] := by
    split
    · exact passes.modeChange session.mode .building
    · rfl
  rw [Session.opening, List.filterMap_cons, changes]
  cases read (.turnStarted turn.number turn.building) <;> rfl

theorem presenting
    (passes : PassesModes read) (unread : ∀ lines, read (.bomReady lines) = none)
    (session : Session σ) (bom : Bom) :
    (session.presenting bom).filterMap read = [] := by
  unfold Session.presenting
  split
  · exact passes.modeChange session.mode .chat
  · rw [List.filterMap_append, passes.modeChange, List.nil_append]
    exact List.filterMap_cons_none (unread bom.lines.length)

end PassesModes

theorem filterMap_announcement (turn : Turn σ) (executed : List Command) :
    (turn.announcement executed).filterMap read =
      if executed.isEmpty then [] else (read (.directivesExecuted turn.number executed)).toList := by
  unfold Turn.announcement
  split
  · rfl
  · exact filterMap_one read _

end Reading

/-! ## Marks told by an act -/

/-- The marks among some events. -/
def marksOf (events : List SessionEvent) : List TurnMark :=
  events.filterMap SessionEvent.turnMark?

@[simp]
theorem marksOf_append (first second : List SessionEvent) :
    marksOf (first ++ second) = marksOf first ++ marksOf second :=
  List.filterMap_append

theorem passesModes_turnMark? : PassesModes SessionEvent.turnMark? :=
  fun _ _ => rfl

@[simp]
theorem marksOf_modeChange (previous current : SessionMode) :
    marksOf (modeChange previous current) = [] :=
  passesModes_turnMark?.modeChange previous current

@[simp]
theorem marksOf_announcement (turn : Turn σ) (executed : List Command) :
    marksOf (turn.announcement executed) = [] := by
  rw [marksOf, filterMap_announcement]
  exact ite_self []

namespace Session

@[simp]
theorem marksOf_leaving (session : Session σ) : marksOf session.leaving = [] :=
  passesModes_turnMark?.leaving session

@[simp]
theorem marksOf_failing (session : Session σ) (turn : Turn σ) (fault : Fault) :
    marksOf (session.failing turn fault) = [.failed turn.number] :=
  passesModes_turnMark?.failing session turn fault

@[simp]
theorem marksOf_opening (session : Session σ) (turn : Turn σ) :
    marksOf (session.opening turn) = [.started turn.number turn.building] :=
  passesModes_turnMark?.opening session turn

@[simp]
theorem marksOf_presenting (session : Session σ) (bom : Bom) :
    marksOf (session.presenting bom) = [] :=
  passesModes_turnMark?.presenting (fun _ => rfl) session bom

end Session

namespace Chronicle

variable {chronicle : Chronicle} {stage after : Stage σ}

theorem started_eq
    {context : TurnContext σ} {input : String} {turn : Turn σ}
    (numbers : chronicle.Numbers stage.session) (taken : stage.session.Takes input)
    (next : turn = stage.session.nextTurn context (trimText input)) :
    TurnMark.started turn.number turn.building =
      .started (chronicle.turns.length + 1) (Message.isBuildingRequest (trimText input)) := by
  rw [next, ← numbers.idle taken.1]
  simp only [Session.nextTurn]

theorem closing_marks_of_flying
    {turn : Turn σ}
    (numbers : chronicle.Numbers stage.session) (agrees : chronicle.Agrees stage.session)
    (flying : stage.session.turn = some turn) (reply : Option ChatMessage) :
    (chronicle.closing reply).marks =
      chronicle.marks ++ (reply.map (TurnMark.ofReply turn.number)).toList := by
  rw [closing_marks (agrees.inFlight_of_flying flying), (numbers.flying turn flying).1]

/-- An act tells the marks by which the chronicle grows. -/
theorem noting_marks
    {act : SessionAct σ} {outcome : StepOutcome}
    (numbers : chronicle.Numbers stage.session) (agrees : chronicle.Agrees stage.session)
    (moves : stage.Moves act outcome after) :
    (chronicle.noting ⟨stage, act, outcome, after⟩).marks =
      chronicle.marks ++ marksOf (Occurrence.told ⟨stage, act, outcome, after⟩) := by
  cases moves with
  | stays quiet _ leads =>
      rw [noting_of_quiet quiet, leads.told]
      exact (List.append_nil _).symm
  | waits taken next leads =>
      rw [leads.told, Session.marksOf_opening, started_eq numbers taken next]
      exact taking_marks (agrees.inFlight_of_idle taken.1) _
  | @expires context input turn _ _ taken next _ leads =>
      have idle := agrees.inFlight_of_idle taken.1
      have flying : (chronicle.taking (trimText input)).inFlight = some (trimText input) := rfl
      have count : turn.number = chronicle.turns.length + 1 := by
        rw [next, ← numbers.idle taken.1]
        rfl
      rw [leads.told, marksOf_append, Session.marksOf_opening, Session.marksOf_failing,
        started_eq numbers taken next, ← List.append_assoc, ← taking_marks idle, count]
      exact closing_marks flying (some turn.failure)
  | fails brings flying _ leads =>
      rw [leads.told, Session.marksOf_failing]
      cases brings with
      | answer => exact closing_marks_of_flying numbers agrees flying (some _)
      | timeOut => exact closing_marks_of_flying numbers agrees flying (some _)
  | @replies _ turn _ processed message _ flying _ _ _ said leads =>
      have mark : TurnMark.ofReply turn.number message = .completed turn.number message.content := by
        rw [said]
        exact TurnMark.ofReply_turnMessage _ turn processed.cleaned (by decide)
      rw [leads.told, marksOf_append, marksOf_announcement, List.nil_append]
      refine (closing_marks_of_flying numbers agrees flying (some message)).trans ?_
      rw [Option.map_some, mark]
      rfl
  | @analyses analysis turn text message _ flying _ _ said leads =>
      have mark : TurnMark.ofReply turn.number message = .completed turn.number message.content := by
        rw [said]
        exact TurnMark.ofReply_turnMessage _ turn text (by decide)
      rw [leads.told, marksOf_append, Session.marksOf_presenting, List.nil_append]
      refine (closing_marks_of_flying numbers agrees flying (some message)).trans ?_
      rw [Option.map_some, mark]
      rfl
  | cancels flying leads =>
      rw [leads.told, Session.marksOf_leaving]
      exact closing_marks_of_flying numbers agrees flying none
  | adds _ _ _ _ _ leads =>
      rw [leads.told, marksOf_modeChange, List.append_nil]
      exact reviewing_marks _ _
  | dismisses _ leads =>
      rw [leads.told, marksOf_modeChange, List.append_nil]
      rfl

/-- While a turn is in flight its start is the latest mark. -/
theorem getLast?_marks_of_flying
    {session : Session σ} {turn : Turn σ}
    (numbers : chronicle.Numbers session) (agrees : chronicle.Agrees session)
    (sound : session.Sound) (flying : session.turn = some turn) :
    chronicle.marks.getLast? = some (.started turn.number turn.building) := by
  rw [marks, agrees.inFlight_of_flying flying, Option.map_some, Option.toList_some,
    List.getLast?_append, (numbers.flying turn flying).1, sound.classified turn flying]
  rfl

end Chronicle

end QuoteDesk
