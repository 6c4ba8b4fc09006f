import QuoteDesk.Proofs.Session.Steps

/-!
# The chronicle agrees with the session

The chronicle of a run, which is made without looking at a session, knows the
turn in flight and every message of the history.  Each act keeps this.
-/

namespace QuoteDesk

open Text

variable {σ : Type}

namespace Session

/-! ## History and flight -/

@[simp]
theorem abandoned_history (session : Session σ) :
    session.abandoned.history = session.history := by
  unfold abandoned
  split <;> rfl

@[simp]
theorem failed_history (session : Session σ) (turn : Turn σ) :
    (session.failed turn).history = session.history ++ [turn.failure] := by
  have said :
      (session.failed turn).history = session.abandoned.history ++ [turn.failure] := rfl
  rw [said, abandoned_history]

@[simp]
theorem reviewing_history (session : Session σ) (bom : Bom) :
    (session.reviewing bom).history = session.history := by
  unfold reviewing
  split <;> rfl

@[simp]
theorem opened_history (session : Session σ) (turn : Turn σ) :
    (session.opened turn).history = session.history ++ [Chapter.opening turn.message] := by
  unfold opened
  split <;> rfl

@[simp]
theorem opened_turn (session : Session σ) (turn : Turn σ) :
    (session.opened turn).turn = some turn := by
  unfold opened
  split <;> rfl

end Session

namespace Chronicle

/-! ## Messages of a chronicle -/

theorem taking_messages
    {chronicle : Chronicle}
    (idle : chronicle.inFlight = none) (message : String) :
    (chronicle.taking message).messages = chronicle.messages ++ [Chapter.opening message] := by
  simp only [messages, taking, idle, Option.map_none, Option.map_some, Option.toList_none,
    Option.toList_some, List.append_nil]

theorem closing_messages
    {chronicle : Chronicle} {message : String}
    (flying : chronicle.inFlight = some message) (reply : Option ChatMessage) :
    (chronicle.closing reply).messages = chronicle.messages ++ reply.toList := by
  simp only [messages, closing, flying, Option.map_none, Option.map_some, Option.toList_none,
    Option.toList_some, List.append_nil, List.flatMap_append, List.flatMap_singleton,
    Chapter.messages, List.append_assoc, List.singleton_append]

theorem reviewing_messages
    {chronicle : Chronicle}
    (idle : chronicle.inFlight = none) (message : ChatMessage) :
    (chronicle.reviewing message).messages = chronicle.messages ++ [message] := by
  simp only [messages, reviewing, idle, Option.map_none, Option.toList_none, List.append_nil,
    List.flatMap_append, List.flatMap_singleton, Chapter.messages]

theorem closing_inFlight (chronicle : Chronicle) (reply : Option ChatMessage) :
    (chronicle.closing reply).inFlight = none := by
  unfold closing
  cases flying : chronicle.inFlight with
  | none => exact flying
  | some message => rfl

theorem noting_of_quiet
    {occurred : Occurrence σ}
    (quiet : occurred.outcome.Quiet) (chronicle : Chronicle) :
    chronicle.noting occurred = chronicle := by
  obtain ⟨before, act, outcome, after⟩ := occurred
  cases quiet <;> cases act <;> rfl

/-! ## Agreement -/

/-- A chronicle agrees with the session of which it tells. -/
structure Agrees (chronicle : Chronicle) (session : Session σ) : Prop where
  flight : chronicle.inFlight = session.turn.map Turn.message
  history : session.history = chronicle.messages

namespace Agrees

variable {chronicle : Chronicle} {session : Session σ}

theorem inFlight_of_idle
    (agrees : chronicle.Agrees session) (idle : session.turn = none) :
    chronicle.inFlight = none := by
  rw [agrees.flight, idle, Option.map_none]

theorem inFlight_of_flying
    {turn : Turn σ}
    (agrees : chronicle.Agrees session) (flying : session.turn = some turn) :
    chronicle.inFlight = some turn.message := by
  rw [agrees.flight, flying, Option.map_some]

theorem taking
    (agrees : chronicle.Agrees session) (idle : session.turn = none) (turn : Turn σ) :
    (chronicle.taking turn.message).Agrees (session.opened turn) where
  flight := by
    rw [Session.opened_turn]
    rfl
  history := by
    rw [Session.opened_history, agrees.history, taking_messages (agrees.inFlight_of_idle idle)]

theorem closing
    {turn : Turn σ} {ended : Session σ} {reply : Option ChatMessage}
    (agrees : chronicle.Agrees session) (flying : session.turn = some turn)
    (landed : ended.turn = none)
    (said : ended.history = session.history ++ reply.toList) :
    (chronicle.closing reply).Agrees ended where
  flight := by rw [closing_inFlight, landed, Option.map_none]
  history := by
    rw [said, agrees.history, closing_messages (agrees.inFlight_of_flying flying)]

/-- One act keeps the chronicle and the session in agreement. -/
theorem noting
    {stage after : Stage σ} {act : SessionAct σ} {outcome : StepOutcome}
    (agrees : chronicle.Agrees stage.session)
    (moves : stage.Moves act outcome after) :
    (chronicle.noting ⟨stage, act, outcome, after⟩).Agrees after.session := by
  cases moves with
  | stays quiet _ leads =>
      rw [noting_of_quiet quiet, leads.reaches]
      exact agrees
  | @waits context input turn _ taken next leads =>
      rw [leads.reaches]
      subst next
      exact agrees.taking taken.1 (stage.session.nextTurn context (trimText input))
  | @expires context input turn _ _ taken next _ leads =>
      rw [leads.reaches]
      subst next
      -- The turn is taken and closed by one act.
      have begun := agrees.taking taken.1 (stage.session.nextTurn context (trimText input))
      exact begun.closing (Session.opened_turn _ _) rfl (Session.failed_history _ _)
  | fails brings flying _ leads =>
      rw [leads.reaches]
      cases brings with
      | answer => exact agrees.closing flying rfl (Session.failed_history _ _)
      | timeOut => exact agrees.closing flying rfl (Session.failed_history _ _)
  | replies flying _ _ _ _ leads =>
      rw [leads.reaches]
      exact agrees.closing flying rfl rfl
  | analyses flying _ _ _ leads =>
      rw [leads.reaches]
      exact agrees.closing flying rfl (Session.reviewing_history _ _)
  | cancels flying leads =>
      rw [leads.reaches]
      apply agrees.closing flying rfl
      rw [Option.toList_none, List.append_nil]
      exact Session.abandoned_history _
  | adds idle _ _ _ _ leads =>
      rw [leads.reaches]
      refine ⟨agrees.flight, ?_⟩
      -- With no turn in flight the message about the review comes last.
      have flight := agrees.inFlight_of_idle idle
      exact (congrArg (· ++ [_]) agrees.history).trans (reviewing_messages flight _).symm
  | dismisses _ leads =>
      rw [leads.reaches]
      exact ⟨agrees.flight, agrees.history⟩

end Agrees

theorem blank_agrees (limits : SessionLimits) :
    blank.Agrees (Session.fresh limits : Session σ) :=
  ⟨rfl, rfl⟩

end Chronicle

namespace Stage

/-! ## Along a run -/

/-- What holds of a stage and its chronicle and is kept by every act holds along
a run. -/
theorem run_induction
    {observer : Observer σ} (Holds : Stage σ → Chronicle → Prop)
    (keeps : ∀ stage chronicle act,
      Holds stage chronicle →
        Holds (stage.perform observer act).2
          (chronicle.noting (stage.occurrence observer act)))
    {stage : Stage σ} (chronicle : Chronicle)
    (holds : Holds stage chronicle) (acts : List (SessionAct σ)) :
    Holds (stage.run observer acts)
      ((stage.occurrences observer acts).foldl Chronicle.noting chronicle) := by
  induction acts generalizing stage chronicle with
  | nil => exact holds
  | cons act later inductionHypothesis =>
      rw [run_cons, occurrences_cons, List.foldl_cons]
      exact inductionHypothesis _ (keeps stage chronicle act holds)

/-- The chronicle of a run from a fresh session agrees with the session. -/
theorem run_agrees
    (observer : Observer σ) (limits : SessionLimits) (bench : Bench σ)
    (acts : List (SessionAct σ)) :
    (Chronicle.ofOccurrences ((ofSession (.fresh limits) bench).occurrences observer acts)).Agrees
      ((ofSession (.fresh limits) bench).run observer acts).session := by
  apply run_induction fun stage chronicle => chronicle.Agrees stage.session
  · intro stage chronicle act agrees
    exact agrees.noting (perform_moves observer stage act)
  · exact Chronicle.blank_agrees limits

end Stage

end QuoteDesk
