import QuoteDesk.Session.Bom

/-!
# Runs of a session

Messages, answers and reviews reach a session one after the other and in any
order.  A run is looked at through its occurrences: each act, how it ended, and
the stages before and after it.  The chronicle of a run is made from the acts
and their outcomes alone; it tells which turns were taken and how they ended.
-/

namespace QuoteDesk

open Text

variable {σ : Type}

/-- What can happen to a session. -/
inductive SessionAct (σ : Type) where
  | send (context : TurnContext σ) (input : String)
  | answer (answer : BackendAnswer)
  | timeOut
  | cancel
  | addBom (context : TurnContext σ)
  | dismissBom

/-- An act, how it ended, and the stages around it. -/
structure Occurrence (σ : Type) where
  before : Stage σ
  act : SessionAct σ
  outcome : StepOutcome
  after : Stage σ

namespace Stage

/-- What an act does.  An answer, the end of its time and a cancellation reach
the turn in flight. -/
def perform (observer : Observer σ) (stage : Stage σ) : SessionAct σ → StepOutcome × Stage σ
  | .send context input => stage.begin observer context input
  | .answer answer => stage.finish observer answer
  | .timeOut => stage.finish observer (.failed .timedOut)
  | .cancel => stage.cancel observer
  | .addBom context => stage.addBom observer context
  | .dismissBom => stage.dismissBom observer

def run (observer : Observer σ) (stage : Stage σ) : List (SessionAct σ) → Stage σ
  | [] => stage
  | act :: later => run observer (stage.perform observer act).2 later

def occurrence (observer : Observer σ) (stage : Stage σ) (act : SessionAct σ) : Occurrence σ :=
  ⟨stage, act, (stage.perform observer act).1, (stage.perform observer act).2⟩

def occurrences (observer : Observer σ) (stage : Stage σ) :
    List (SessionAct σ) → List (Occurrence σ)
  | [] => []
  | act :: later =>
      stage.occurrence observer act ::
        occurrences observer (stage.perform observer act).2 later

@[simp]
theorem run_nil (observer : Observer σ) (stage : Stage σ) :
    stage.run observer [] = stage := rfl

@[simp]
theorem run_cons
    (observer : Observer σ) (stage : Stage σ) (act : SessionAct σ) (later : List (SessionAct σ)) :
    stage.run observer (act :: later) = (stage.perform observer act).2.run observer later := rfl

@[simp]
theorem occurrences_nil (observer : Observer σ) (stage : Stage σ) :
    stage.occurrences observer [] = [] := rfl

@[simp]
theorem occurrences_cons
    (observer : Observer σ) (stage : Stage σ) (act : SessionAct σ) (later : List (SessionAct σ)) :
    stage.occurrences observer (act :: later) =
      stage.occurrence observer act ::
        (stage.perform observer act).2.occurrences observer later := rfl

theorem run_append
    (observer : Observer σ) (stage : Stage σ) (earlier later : List (SessionAct σ)) :
    stage.run observer (earlier ++ later) = (stage.run observer earlier).run observer later := by
  induction earlier generalizing stage with
  | nil => rfl
  | cons act rest inductionHypothesis =>
      rw [List.cons_append, run_cons, run_cons]
      exact inductionHypothesis (stage.perform observer act).2

theorem exists_of_mem_occurrences
    {observer : Observer σ} {stage : Stage σ} {acts : List (SessionAct σ)}
    {occurred : Occurrence σ}
    (member : occurred ∈ stage.occurrences observer acts) :
    ∃ before act, occurred = Stage.occurrence observer before act := by
  induction acts generalizing stage with
  | nil => cases member
  | cons act later inductionHypothesis =>
      rw [occurrences_cons, List.mem_cons] at member
      rcases member with first | further
      · exact ⟨stage, act, first⟩
      · exact inductionHypothesis further

end Stage

/-! ## Chronicles -/

/-- A part of a conversation that came to its end: a turn with what was answered,
if it was not cancelled, or a review of a bill of materials. -/
inductive Chapter where
  | turn (message : String) (reply : Option ChatMessage)
  | review (message : ChatMessage)

namespace Chapter

/-- The message of the user with which a turn begins. -/
def opening (message : String) : ChatMessage :=
  ⟨.user, message, []⟩

def messages : Chapter → List ChatMessage
  | .turn message reply => opening message :: reply.toList
  | .review message => [message]

end Chapter

/-- The chapters of a conversation and the message of the turn in flight. -/
structure Chronicle where
  chapters : List Chapter
  inFlight : Option String

namespace Chronicle

def blank : Chronicle := ⟨[], none⟩

def taking (chronicle : Chronicle) (message : String) : Chronicle :=
  ⟨chronicle.chapters, some message⟩

def closing (chronicle : Chronicle) (reply : Option ChatMessage) : Chronicle :=
  match chronicle.inFlight with
  | none => chronicle
  | some message => ⟨chronicle.chapters ++ [.turn message reply], none⟩

def reviewing (chronicle : Chronicle) (message : ChatMessage) : Chronicle :=
  ⟨chronicle.chapters ++ [.review message], chronicle.inFlight⟩

/-- The chronicle after one more occurrence. -/
def noting (chronicle : Chronicle) (occurred : Occurrence σ) : Chronicle :=
  match occurred.act, occurred.outcome with
  | .send _ input, .waiting => chronicle.taking (trimText input)
  | .send _ input, .answered message =>
      (chronicle.taking (trimText input)).closing (some message)
  | .addBom _, .answered message => chronicle.reviewing message
  | _, .answered message => chronicle.closing (some message)
  | _, .cancelled => chronicle.closing none
  | _, _ => chronicle

def ofOccurrences (occurred : List (Occurrence σ)) : Chronicle :=
  occurred.foldl noting blank

/-- All messages of a conversation, in order. -/
def messages (chronicle : Chronicle) : List ChatMessage :=
  chronicle.chapters.flatMap Chapter.messages ++
    (chronicle.inFlight.map Chapter.opening).toList

end Chronicle

end QuoteDesk
