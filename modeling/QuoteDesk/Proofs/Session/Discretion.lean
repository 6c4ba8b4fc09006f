import Mathlib.Data.List.Forall2
import QuoteDesk.Proofs.Reply.Reporting
import QuoteDesk.Proofs.Session.Watching

/-!
# Why a turn failed stays hidden

Two runs that differ only in the faults with which the assistant failed lead to the
same session, the same calls of the quote, the same requests and the same outcomes.
The cause of a failure is told to the records and in the event of the failure.
-/

namespace QuoteDesk

variable {σ : Type}

/-! ## Equal but for causes -/

/-- The event without the cause of a failure. -/
def SessionEvent.withoutCause : SessionEvent → SessionEvent
  | .turnFailed turn _ => .turnFailed turn ""
  | event => event

/-- What those who watch do to the quote does not hang on the cause of a failure. -/
def Observer.Discreet (observer : Observer σ) : Prop :=
  ∀ state event other, event.withoutCause = other.withoutCause →
    (observer.notice state event).1 = (observer.notice state other).1

/-- The same act, or two failures of the assistant, each with its own fault. -/
inductive SessionAct.SameButCause : SessionAct σ → SessionAct σ → Prop
  | same (act : SessionAct σ) : SameButCause act act
  | failed {act other : SessionAct σ} {fault otherFault : Fault} :
      Stage.Brings act (.failed fault) →
      Stage.Brings other (.failed otherFault) →
      SameButCause act other

/-- Benches that differ at most in their records. -/
structure Bench.Alike (bench other : Bench σ) : Prop where
  state : bench.state = other.state
  sink : bench.sink = other.sink

/-- Stages that differ at most in their records and in the causes of failures that
were told. -/
structure Stage.Alike (stage other : Stage σ) : Prop where
  session : stage.session = other.session
  bench : stage.bench.Alike other.bench
  events : stage.events.map SessionEvent.withoutCause = other.events.map SessionEvent.withoutCause
  asked : stage.asked = other.asked

/-! ## Work at a bench -/

namespace Bench

/-- Work with the same result that leaves benches alike. -/
def SameWork {α : Type} (one other : α × Bench σ) : Prop :=
  one.1 = other.1 ∧ one.2.Alike other.2

/-- Work with the same result is one result and two benches. -/
theorem SameWork.exists_result
    {α : Type} {one other : α × Bench σ} (same : SameWork one other) :
    ∃ result bench otherBench,
      one = (result, bench) ∧ other = (result, otherBench) ∧ bench.Alike otherBench :=
  ⟨one.1, one.2, other.2, rfl, Prod.ext same.1.symm rfl, same.2⟩

variable {bench other : Bench σ}

theorem Alike.refl (bench : Bench σ) : bench.Alike bench := ⟨rfl, rfl⟩

theorem Alike.record (alike : bench.Alike other) (entry otherEntry : LogRecord) :
    (bench.record entry).Alike (other.record otherEntry) :=
  ⟨alike.state, alike.sink⟩

/-- Work that takes no notice of the records leaves alike what was alike. -/
theorem Heedless.sameWork
    {α : Type} {work : Bench σ → α × Bench σ} (heedless : Heedless work)
    (alike : bench.Alike other) : SameWork (work bench) (work other) := by
  obtain ⟨state, sink, log⟩ := bench
  obtain ⟨otherState, otherSink, otherLog⟩ := other
  obtain ⟨rfl, rfl⟩ := alike
  obtain ⟨result, final, reported, leads⟩ := heedless state
  obtain ⟨records, led⟩ := leads sink log
  obtain ⟨otherRecords, otherLed⟩ := leads sink otherLog
  rw [led, otherLed]
  exact ⟨rfl, rfl, rfl⟩

end Bench

open Bench (Heedless Leads)

theorem Stage.heedless_bomCommands (before : List Command) (lines : List BomLine) :
    Heedless fun bench : Bench σ => bomCommands bench before lines := by
  induction lines generalizing before with
  | nil => exact fun state => (Leads.resting _ state).heedless
  | cons line rest inductionHypothesis =>
      intro state
      unfold bomCommands
      split
      · exact inductionHypothesis _ state
      · obtain ⟨_, final, more, goesOn⟩ := inductionHypothesis before state
        exact ((Leads.reporting () state _).andThen goesOn fun _ _ told => by
          rw [(Prod.mk.inj told).2]).heedless
      · exact (Leads.resting _ state).heedless

/-! ## Steps of a session -/

namespace Stage

/-- Steps with the same outcome that leave stages alike. -/
def SameStep (one other : StepOutcome × Stage σ) : Prop :=
  one.1 = other.1 ∧ one.2.Alike other.2

namespace Alike

theorem refl (stage : Stage σ) : stage.Alike stage := ⟨rfl, .refl stage.bench, rfl, rfl⟩

variable {stage other : Stage σ} {observer : Observer σ}

section Parts

variable (alike : stage.Alike other)
include alike

theorem withSession (session : Session σ) :
    ({ stage with session := session } : Stage σ).Alike { other with session := session } :=
  ⟨rfl, alike.bench, alike.events, alike.asked⟩

theorem withBench {bench otherBench : Bench σ} (benches : bench.Alike otherBench) :
    ({ stage with bench := bench } : Stage σ).Alike { other with bench := otherBench } :=
  ⟨alike.session, benches, alike.events, alike.asked⟩

theorem record (entry otherEntry : LogRecord) :
    (stage.record entry).Alike (other.record otherEntry) :=
  alike.withBench (alike.bench.record entry otherEntry)

theorem append (message : ChatMessage) : (stage.append message).Alike (other.append message) := by
  unfold Stage.append
  rw [alike.session]
  exact alike.withSession _

theorem land : stage.land.Alike other.land := by
  unfold Stage.land
  rw [alike.session]
  exact alike.withSession _

theorem ask (request : BackendRequest) : (stage.ask request).Alike (other.ask request) :=
  ⟨alike.session, alike.bench, alike.events, congrArg (· ++ [request]) alike.asked⟩

variable (discreet : observer.Discreet)
include discreet

theorem publish
    {event otherEvent : SessionEvent} (same : event.withoutCause = otherEvent.withoutCause) :
    (stage.publish observer event).Alike (other.publish observer otherEvent) where
  session := alike.session
  bench := by
    refine ⟨?_, alike.bench.sink⟩
    have noticed := discreet stage.bench.state event otherEvent same
    rw [alike.bench.state] at noticed
    exact (congrArg (fun state => (observer.notice state event).1) alike.bench.state).trans noticed
  events := by
    have told : (stage.publish observer event).events = stage.events ++ [event] := rfl
    have otherTold :
        (other.publish observer otherEvent).events = other.events ++ [otherEvent] := rfl
    rw [told, otherTold, List.map_append, List.map_append, alike.events, List.map_singleton,
      List.map_singleton, same]
  asked := alike.asked

theorem setMode (mode : SessionMode) :
    (stage.setMode observer mode).Alike (other.setMode observer mode) := by
  unfold Stage.setMode
  rw [alike.session]
  have changed := alike.withSession
    { other.session with
      mode := mode, pending := if mode = .chat then none else other.session.pending }
  by_cases same : other.session.mode = mode
  · rw [if_pos same, if_pos same]
    exact changed
  · rw [if_neg same, if_neg same]
    exact (changed.record _ _).publish discreet rfl

theorem abandon : (stage.abandon observer).Alike (other.abandon observer) := by
  unfold Stage.abandon
  rw [alike.session]
  by_cases building : other.session.mode = .building
  · rw [if_pos building, if_pos building]
    exact alike.setMode discreet .chat
  · rw [if_neg building, if_neg building]
    exact alike

/-- Turns that fail are alike whatever the causes are. -/
theorem fail (turn : Turn σ) (fault otherFault : Fault) :
    SameStep (stage.fail observer turn fault) (other.fail observer turn otherFault) := by
  have untold : (SessionEvent.turnFailed turn.number fault.line).withoutCause =
      (SessionEvent.turnFailed turn.number otherFault.line).withoutCause := rfl
  refine ⟨rfl, land (append (publish (abandon ?_ discreet) discreet untold) _)⟩
  exact alike.record _ _

theorem complete (turn : Turn σ) (message : ChatMessage) :
    SameStep (stage.complete observer turn message) (other.complete observer turn message) :=
  ⟨rfl, (alike.publish discreet rfl).land⟩

theorem announce (turn : Turn σ) (executed : List Command) :
    (stage.announce observer turn executed).Alike (other.announce observer turn executed) := by
  unfold Stage.announce
  by_cases nothing : executed.isEmpty
  · rw [if_pos nothing, if_pos nothing]
    exact alike
  · rw [if_neg nothing, if_neg nothing]
    exact alike.publish discreet rfl

theorem review (turn : Turn σ) (bom : Bom) :
    (stage.review observer turn bom).Alike (other.review observer turn bom) := by
  unfold Stage.review
  by_cases nothing : bom.lines.isEmpty
  · rw [if_pos nothing, if_pos nothing]
    exact (alike.record _ _).setMode discreet .chat
  · rw [if_neg nothing, if_neg nothing, alike.session]
    have waiting := alike.withSession { other.session with pending := some bom }
    exact (waiting.setMode discreet .bomPreview).publish discreet rfl

theorem finishChat (turn : Turn σ) (reply : Value) :
    SameStep (stage.finishChat observer turn reply) (other.finishChat observer turn reply) := by
  obtain ⟨result, bench, otherBench, work, otherWork, benches⟩ :=
    ((Reply.heedless_process turn.context reply).sameWork alike.bench).exists_result
  rw [Stage.finishChat, Stage.finishChat, work, otherWork]
  have worked := alike.withBench benches
  cases result with
  | error fault => exact worked.fail discreet turn fault fault
  | ok processed =>
      have told := worked.announce discreet turn processed.executed
      exact (told.append _).complete discreet turn _

theorem finishBuilding (turn : Turn σ) (analysis : Analysis) :
    SameStep (stage.finishBuilding observer turn analysis)
      (other.finishBuilding observer turn analysis) := by
  unfold Stage.finishBuilding
  cases analysis.report with
  | error fault => exact alike.fail discreet turn fault fault
  | ok text =>
      refine complete (review ?_ discreet turn analysis.bom) discreet turn _
      exact alike.append _

theorem finishTurn (turn : Turn σ) (answer : BackendAnswer) :
    SameStep (stage.finishTurn observer turn answer) (other.finishTurn observer turn answer) := by
  unfold Stage.finishTurn
  cases answer with
  | failed fault => exact alike.fail discreet turn fault fault
  | reply value =>
      by_cases building : turn.building
      · simp only [building, if_true]
        exact alike.fail discreet turn _ _
      · simp only [building]
        exact alike.finishChat discreet turn value
  | analysis analysis =>
      by_cases building : turn.building
      · simp only [building, if_true]
        exact alike.finishBuilding discreet turn analysis
      · simp only [building]
        exact alike.finishChat discreet turn .null

theorem finish (answer : BackendAnswer) :
    SameStep (stage.finish observer answer) (other.finish observer answer) := by
  unfold Stage.finish
  rw [alike.session]
  cases other.session.turn with
  | none => exact ⟨rfl, alike⟩
  | some turn => exact alike.finishTurn discreet turn answer

theorem finish_failed (fault otherFault : Fault) :
    SameStep (stage.finish observer (.failed fault))
      (other.finish observer (.failed otherFault)) := by
  unfold Stage.finish
  rw [alike.session]
  cases other.session.turn with
  | none => exact ⟨rfl, alike⟩
  | some turn => exact alike.fail discreet turn fault otherFault

theorem cancel : SameStep (stage.cancel observer) (other.cancel observer) := by
  unfold Stage.cancel
  rw [alike.session]
  cases other.session.turn with
  | none => exact ⟨rfl, alike⟩
  | some turn => exact ⟨rfl, ((alike.record _ _).abandon discreet).land⟩

theorem opening (turn : Turn σ) :
    (stage.opening observer turn).Alike (other.opening observer turn) := by
  let started : SessionEvent := .turnStarted turn.number turn.building
  have told : started.withoutCause = started.withoutCause := rfl
  have begun := (alike.withSession (other.session.flying turn)).publish discreet told
  unfold Stage.opening
  rw [alike.session]
  by_cases building : turn.building
  · rw [if_pos building, if_pos building]
    have left := begun.withSession { other.session.flying turn with pending := none }
    exact left.setMode discreet .building
  · rw [if_neg building, if_neg building]
    exact begun

theorem start (context : TurnContext σ) (message : String) :
    SameStep (stage.start observer context message) (other.start observer context message) := by
  rw [start_eq, start_eq, alike.session]
  have begun := alike.opening discreet (other.session.nextTurn context message)
  dsimp only
  cases Session.patience other.session.limits.timeout with
  | expired => exact begun.fail discreet _ _ _
  | unusable fault => exact begun.fail discreet _ fault fault
  | unlimited => exact ⟨rfl, begun.ask _⟩
  | limited => exact ⟨rfl, begun.ask _⟩

theorem begin (context : TurnContext σ) (input : String) :
    SameStep (stage.begin observer context input) (other.begin observer context input) := by
  unfold Stage.begin
  rw [alike.session]
  split
  · exact ⟨rfl, alike⟩
  · dsimp only
    split
    · exact ⟨rfl, alike⟩
    · split
      · exact ⟨rfl, alike⟩
      · exact alike.start discreet context _

theorem executeBom
    (context : TurnContext σ) (catalog : Catalog) (bom : Bom) (commands : List Command) :
    SameStep (stage.executeBom observer context catalog bom commands)
      (other.executeBom observer context catalog bom commands) := by
  obtain ⟨result, bench, otherBench, work, otherWork, benches⟩ :=
    ((Command.heedless_execute context.access catalog commands).sameWork alike.bench).exists_result
  rw [Stage.executeBom, Stage.executeBom, work, otherWork]
  have worked := alike.withBench benches
  cases result with
  | error fault => exact ⟨rfl, ((worked.record _ _).append _).setMode discreet .chat⟩
  | ok executed => exact ⟨rfl, ((worked.setMode discreet .chat).record _ _).append _⟩

theorem addBom (context : TurnContext σ) :
    SameStep (stage.addBom observer context) (other.addBom observer context) := by
  unfold Stage.addBom
  rw [alike.session]
  split
  · exact ⟨rfl, alike⟩
  · cases other.session.pending with
    | none => exact ⟨rfl, alike⟩
    | some bom =>
        obtain ⟨result, bench, otherBench, work, otherWork, benches⟩ :=
          ((heedless_bomCommands [] bom.lines).sameWork alike.bench).exists_result
        have worked := (alike.withSession other.session).withBench benches
        simp only [work, otherWork]
        cases result with
        | error fault => exact ⟨rfl, worked⟩
        | ok commands =>
            dsimp only
            cases Reply.catalogOf context.inventory with
            | error fault => exact ⟨rfl, worked⟩
            | ok catalog => exact worked.executeBom discreet context catalog bom commands

theorem dismissBom : SameStep (stage.dismissBom observer) (other.dismissBom observer) := by
  unfold Stage.dismissBom
  rw [alike.session]
  split
  · exact ⟨rfl, alike⟩
  · split
    · exact ⟨rfl, alike⟩
    · exact ⟨rfl, alike.setMode discreet .chat⟩

end Parts

theorem perform_same
    (alike : stage.Alike other) (discreet : observer.Discreet) (act : SessionAct σ) :
    SameStep (stage.perform observer act) (other.perform observer act) := by
  cases act with
  | send context input => exact alike.begin discreet context input
  | answer answer => exact alike.finish discreet answer
  | timeOut => exact alike.finish discreet (.failed .timedOut)
  | cancel => exact alike.cancel discreet
  | addBom context => exact alike.addBom discreet context
  | dismissBom => exact alike.dismissBom discreet

end Alike

theorem perform_of_brings
    {act : SessionAct σ} {answer : BackendAnswer}
    (brings : Brings act answer) (observer : Observer σ) (stage : Stage σ) :
    stage.perform observer act = stage.finish observer answer := by
  cases brings with
  | answer => rfl
  | timeOut => rfl

/-- One act keeps stages alike that differ in causes alone. -/
theorem Alike.perform
    {stage other : Stage σ} {observer : Observer σ} {act otherAct : SessionAct σ}
    (alike : stage.Alike other) (discreet : observer.Discreet)
    (paired : act.SameButCause otherAct) :
    SameStep (stage.perform observer act) (other.perform observer otherAct) := by
  cases paired with
  | same => exact alike.perform_same discreet act
  | failed brings otherBrings =>
      rw [perform_of_brings brings, perform_of_brings otherBrings]
      exact alike.finish_failed discreet _ _

/-! ## Runs -/

/-- A run keeps stages alike that differ in causes alone. -/
theorem Alike.run
    {stage other : Stage σ} {observer : Observer σ} {acts otherActs : List (SessionAct σ)}
    (alike : stage.Alike other) (discreet : observer.Discreet)
    (paired : List.Forall₂ SessionAct.SameButCause acts otherActs) :
    (stage.run observer acts).Alike (other.run observer otherActs) ∧
      (stage.occurrences observer acts).map Occurrence.outcome =
        (other.occurrences observer otherActs).map Occurrence.outcome := by
  induction paired generalizing stage other with
  | nil => exact ⟨alike, rfl⟩
  | cons first _ inductionHypothesis =>
      obtain ⟨outcome, after⟩ := alike.perform discreet first
      obtain ⟨ended, outcomes⟩ := inductionHypothesis after
      exact ⟨ended, congrArg₂ List.cons outcome outcomes⟩

end Stage

/-! ## Watched runs -/

theorem Observer.Discreet.noting
    {observer : Observer σ} (discreet : observer.Discreet) : observer.noting.Discreet := by
  intro noted event other same
  exact congrArg (Noted.mk · noted.calls) (discreet noted.state event other same)

theorem Stage.Brings.noting
    {act : SessionAct σ} {answer : BackendAnswer} (brings : Brings act answer) :
    Brings act.noting answer := by
  cases brings with
  | answer answer => exact .answer answer
  | timeOut => exact .timeOut

theorem SessionAct.SameButCause.noting
    {act other : SessionAct σ} (paired : act.SameButCause other) :
    act.noting.SameButCause other.noting := by
  cases paired with
  | same => exact .same act.noting
  | failed brings otherBrings => exact .failed brings.noting otherBrings.noting

namespace Stage

end Stage

end QuoteDesk
