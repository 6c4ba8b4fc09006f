import QuoteDesk.Proofs.Reply.Calls
import QuoteDesk.Proofs.Session.Steps

/-!
# Watched sessions

A session reaches a quote through the operations that come with its turns and its
reviews.  When these are watched, every call that the quote receives in a run is
noted, and the run is the same otherwise.
-/

namespace QuoteDesk

variable {σ : Type}

/-! ## Watching a stage -/

/-- The turn whose operations are watched. -/
def Turn.noting (turn : Turn σ) : Turn (Noted σ) :=
  ⟨turn.number, turn.message, turn.building, turn.context.noting⟩

def Session.noting (session : Session σ) : Session (Noted σ) :=
  ⟨session.limits, session.mode, session.history, session.pending,
    session.turn.map Turn.noting, session.turns⟩

/-- Those who watch a session make no calls. -/
def Observer.noting (observer : Observer σ) : Observer (Noted σ) where
  notice noted event :=
    (⟨(observer.notice noted.state event).1, noted.calls⟩,
      (observer.notice noted.state event).2)

def SessionAct.noting : SessionAct σ → SessionAct (Noted σ)
  | .send context input => .send context.noting input
  | .answer given => .answer given
  | .timeOut => .timeOut
  | .cancel => .cancel
  | .addBom context => .addBom context.noting
  | .dismissBom => .dismissBom

namespace Stage

/-- The stage with its operations watched, behind the calls made so far. -/
def noting (stage : Stage σ) (calls : List NotedCall) : Stage (Noted σ) :=
  ⟨stage.session.noting, stage.bench.withCalls calls, stage.events, stage.asked⟩

/-! ## The parts of an act make no calls -/

section Parts

variable (stage : Stage σ) (calls : List NotedCall) (observer : Observer σ)

@[simp]
theorem isBusy_noting : (stage.noting calls).session.isBusy = stage.session.isBusy := by
  unfold Session.isBusy noting Session.noting
  exact Option.isSome_map

@[simp]
theorem record_noting (entry : LogRecord) :
    (stage.noting calls).record entry = (stage.record entry).noting calls := rfl

@[simp]
theorem publish_noting (event : SessionEvent) :
    (stage.noting calls).publish observer.noting event =
      (stage.publish observer event).noting calls := rfl

@[simp]
theorem append_noting (message : ChatMessage) :
    (stage.noting calls).append message = (stage.append message).noting calls := rfl

@[simp]
theorem land_noting : (stage.noting calls).land = stage.land.noting calls := rfl

@[simp]
theorem setMode_noting (mode : SessionMode) :
    (stage.noting calls).setMode observer.noting mode =
      (stage.setMode observer mode).noting calls := by
  have same : (stage.noting calls).session.mode = stage.session.mode := rfl
  unfold setMode
  rw [same]
  by_cases unchanged : stage.session.mode = mode
  · rw [if_pos unchanged, if_pos unchanged]
    rfl
  · rw [if_neg unchanged, if_neg unchanged]
    rfl

@[simp]
theorem abandon_noting :
    (stage.noting calls).abandon observer.noting = (stage.abandon observer).noting calls := by
  have same : (stage.noting calls).session.mode = stage.session.mode := rfl
  unfold abandon
  rw [same]
  by_cases building : stage.session.mode = .building
  · rw [if_pos building, if_pos building, setMode_noting]
  · rw [if_neg building, if_neg building]

@[simp]
theorem announce_noting (turn : Turn σ) (executed : List Command) :
    (stage.noting calls).announce observer.noting turn.noting executed =
      (stage.announce observer turn executed).noting calls := by
  unfold announce
  by_cases nothing : executed.isEmpty
  · rw [if_pos nothing, if_pos nothing]
  · rw [if_neg nothing, if_neg nothing]
    rfl

@[simp]
theorem review_noting (turn : Turn σ) (bom : Bom) :
    (stage.noting calls).review observer.noting turn.noting bom =
      (stage.review observer turn bom).noting calls := by
  unfold review
  by_cases nothing : bom.lines.isEmpty
  · rw [if_pos nothing, if_pos nothing, record_noting, setMode_noting]
    rfl
  · rw [if_neg nothing, if_neg nothing]
    exact congrArg (fun next => next.publish observer.noting (.bomReady bom.lines.length))
      (setMode_noting { stage with session := { stage.session with pending := some bom } }
        calls observer .bomPreview)

theorem fail_noting (turn : Turn σ) (fault : Fault) :
    (stage.noting calls).fail observer.noting turn.noting fault =
      ((stage.fail observer turn fault).1, (stage.fail observer turn fault).2.noting calls) := by
  simp only [fail, record_noting, abandon_noting, publish_noting, append_noting, land_noting,
    Turn.noting]
  rfl

theorem complete_noting (turn : Turn σ) (message : ChatMessage) :
    (stage.noting calls).complete observer.noting turn.noting message =
      ((stage.complete observer turn message).1,
        (stage.complete observer turn message).2.noting calls) := rfl

theorem cancel_noting :
    (stage.noting calls).cancel observer.noting =
      ((stage.cancel observer).1, (stage.cancel observer).2.noting calls) := by
  unfold cancel
  cases flying : stage.session.turn with
  | none => simp only [noting, Session.noting, flying, Option.map_none]
  | some turn =>
      have watched : (stage.noting calls).session.turn = some turn.noting := by
        rw [noting, Session.noting, flying, Option.map_some]
      rw [watched]
      simp only [record_noting, abandon_noting, land_noting, Turn.noting]

theorem dismissBom_noting :
    (stage.noting calls).dismissBom observer.noting =
      ((stage.dismissBom observer).1, (stage.dismissBom observer).2.noting calls) := by
  have sameMode : (stage.noting calls).session.mode = stage.session.mode := rfl
  have samePending : (stage.noting calls).session.pending = stage.session.pending := rfl
  unfold dismissBom
  rw [isBusy_noting, sameMode, samePending, setMode_noting]
  split
  · rfl
  · split <;> rfl

@[simp]
theorem opening_noting (turn : Turn σ) :
    (stage.noting calls).opening observer.noting turn.noting =
      (stage.opening observer turn).noting calls := by
  let begun := { stage with session := stage.session.flying turn }.publish observer
    (.turnStarted turn.number turn.building)
  have sameKind : turn.noting.building = turn.building := rfl
  unfold opening
  rw [sameKind]
  by_cases building : turn.building
  · rw [if_pos building, if_pos building]
    exact setMode_noting { begun with session := { begun.session with pending := none } } calls
      observer .building
  · rw [if_neg building, if_neg building]
    rfl

theorem start_noting (context : TurnContext σ) (message : String) :
    (stage.noting calls).start observer.noting context.noting message =
      ((stage.start observer context message).1,
        (stage.start observer context message).2.noting calls) := by
  have sameTurn : (stage.noting calls).session.nextTurn context.noting message =
      (stage.session.nextTurn context message).noting := by
    simp only [Session.nextTurn, noting, Session.noting, Turn.noting]
  have sameLimits : (stage.noting calls).session.limits = stage.session.limits := rfl
  rw [start_eq, start_eq, sameTurn, sameLimits]
  generalize stage.session.nextTurn context message = turn
  dsimp only
  rw [opening_noting]
  cases Session.patience stage.session.limits.timeout with
  | expired => exact fail_noting _ calls observer _ .timedOut
  | unusable fault => exact fail_noting _ calls observer _ fault
  | unlimited => rfl
  | limited => rfl

theorem begin_noting (context : TurnContext σ) (input : String) :
    (stage.noting calls).begin observer.noting context.noting input =
      ((stage.begin observer context input).1,
        (stage.begin observer context input).2.noting calls) := by
  have sameLimits : (stage.noting calls).session.limits = stage.session.limits := rfl
  unfold begin
  rw [isBusy_noting, sameLimits]
  split
  · rfl
  · simp only
    split
    · rfl
    · split
      · rfl
      · exact start_noting stage calls observer context (Text.trimText input)

end Parts

/-! ## The calls of an act -/

/-- The calls made by a turn that is answered. -/
def turnCalls (stage : Stage σ) (turn : Turn σ) : BackendAnswer → List NotedCall
  | .reply value => if turn.building then [] else Reply.callsOf turn.context stage.bench value
  | .analysis _ => []
  | .failed _ => []

/-- The calls made when the bill of materials that waits is put on the quote. -/
def reviewCalls (stage : Stage σ) (context : TurnContext σ) : List NotedCall :=
  match stage.session.turn, stage.session.pending with
  | none, some bom =>
      match bomCommands stage.bench [] bom.lines, Reply.catalogOf context.inventory with
      | (.ok commands, bench), .ok catalog =>
          Command.callsOf context.access catalog bench commands
      | _, _ => []
  | _, _ => []

/-- The calls that a quote receives by an act. -/
def callsOf (stage : Stage σ) : SessionAct σ → List NotedCall
  | .answer answer => (stage.session.turn.map (stage.turnCalls · answer)).getD []
  | .addBom context => stage.reviewCalls context
  | .send _ _ => []
  | .timeOut => []
  | .cancel => []
  | .dismissBom => []

theorem turnCalls_of_flying
    {stage : Stage σ} {turn : Turn σ}
    (flying : stage.session.turn = some turn) (answer : BackendAnswer) :
    stage.callsOf (.answer answer) = stage.turnCalls turn answer := by
  rw [callsOf, flying]
  rfl

theorem turnCalls_of_building
    {turn : Turn σ} (building : turn.building = true) (stage : Stage σ) (answer : BackendAnswer) :
    stage.turnCalls turn answer = [] := by
  cases answer with
  | reply value => rw [turnCalls, if_pos building]
  | analysis analysis => rfl
  | failed fault => rfl

theorem turnCalls_of_chat
    {turn : Turn σ} (chat : turn.building = false) (stage : Stage σ) (value : Value) :
    stage.turnCalls turn (.reply value) = Reply.callsOf turn.context stage.bench value := by
  rw [turnCalls, if_neg (Bool.eq_false_iff.1 chat)]

section Acts

variable (stage : Stage σ) (calls : List NotedCall) (observer : Observer σ)

theorem finishChat_noting (turn : Turn σ) (reply : Value) :
    (stage.noting calls).finishChat observer.noting turn.noting reply =
      ((stage.finishChat observer turn reply).1,
        (stage.finishChat observer turn reply).2.noting
          (calls ++ Reply.callsOf turn.context stage.bench reply)) := by
  have sameBench : (stage.noting calls).bench = stage.bench.withCalls calls := rfl
  have sameContext : turn.noting.context = turn.context.noting := rfl
  unfold finishChat
  rw [sameBench, sameContext, Reply.process_withCalls]
  generalize Reply.callsOf turn.context stage.bench reply = made
  rcases Reply.process turn.context stage.bench reply with ⟨fault | processed, bench⟩
  · exact fail_noting { stage with bench := bench } (calls ++ made) observer turn fault
  · let message := turnMessage turn processed.cleaned
      [("executed", .int processed.executed.length)]
    let told := { stage with bench := bench }.announce observer turn processed.executed
    have announced := announce_noting { stage with bench := bench } (calls ++ made) observer turn
      processed.executed
    exact (congrArg (fun next => (next.append message).complete observer.noting turn.noting message)
      announced).trans (complete_noting (told.append message) (calls ++ made) observer turn message)

theorem finishBuilding_noting (turn : Turn σ) (analysis : Analysis) :
    (stage.noting calls).finishBuilding observer.noting turn.noting analysis =
      ((stage.finishBuilding observer turn analysis).1,
        (stage.finishBuilding observer turn analysis).2.noting calls) := by
  unfold finishBuilding
  cases analysis.report with
  | error fault => exact fail_noting stage calls observer turn fault
  | ok text =>
      dsimp only
      rw [append_noting, review_noting]
      rfl

/-- Noting the calls changes nothing about the end of a turn. -/
theorem finish_noting (answer : BackendAnswer) :
    (stage.noting calls).finish observer.noting answer =
      ((stage.finish observer answer).1,
        (stage.finish observer answer).2.noting (calls ++ stage.callsOf (.answer answer))) := by
  have watched : (stage.noting calls).session.turn = stage.session.turn.map Turn.noting := rfl
  unfold finish callsOf
  rw [watched]
  cases stage.session.turn with
  | none =>
      simp only [Option.map_none, Option.getD_none, List.append_nil]
  | some turn =>
      have sameKind : turn.noting.building = turn.building := rfl
      simp only [Option.map_some, Option.getD_some, finishTurn, turnCalls, sameKind]
      cases answer with
      | failed fault =>
          simp only [List.append_nil]
          exact fail_noting stage calls observer turn fault
      | reply value =>
          by_cases building : turn.building
          · simp only [if_pos building, List.append_nil]
            exact fail_noting stage calls observer turn (noAnalysis value)
          · simp only [if_neg building]
            exact finishChat_noting stage calls observer turn value
      | analysis analysis =>
          by_cases building : turn.building
          · simp only [if_pos building, List.append_nil]
            exact finishBuilding_noting stage calls observer turn analysis
          · simp only [if_neg building]
            exact finishChat_noting stage calls observer turn .null

theorem bomCommands_withCalls
    (bench : Bench σ) (before : List Command) (lines : List BomLine) :
    bomCommands (bench.withCalls calls) before lines =
      ((bomCommands bench before lines).1,
        (bomCommands bench before lines).2.withCalls calls) := by
  induction lines generalizing bench before with
  | nil => rfl
  | cons line rest inductionHypothesis =>
      unfold bomCommands
      split
      · exact inductionHypothesis bench _
      · exact inductionHypothesis (bench.report _) before
      · rfl

theorem executeBom_noting
    (context : TurnContext σ) (catalog : Catalog) (bom : Bom) (commands : List Command) :
    (stage.noting calls).executeBom observer.noting context.noting catalog bom commands =
      ((stage.executeBom observer context catalog bom commands).1,
        (stage.executeBom observer context catalog bom commands).2.noting
          (calls ++ Command.callsOf context.access catalog stage.bench commands)) := by
  have sameBench : (stage.noting calls).bench = stage.bench.withCalls calls := rfl
  have sameAccess : context.noting.access = context.access.noting := rfl
  unfold executeBom
  rw [sameBench, sameAccess, Command.execute_withCalls]
  generalize Command.callsOf context.access catalog stage.bench commands = made
  rcases Command.execute context.access catalog stage.bench commands with
    ⟨fault | executed, bench⟩
  · let told := ({ stage with bench := bench }.record
      (.error Session.logger s!"Adding BOM to quote failed: {fault.message}")).append
        ⟨.assistant, Session.apology, [("failed", .bool true)]⟩
    exact congrArg (Prod.mk _) (setMode_noting told (calls ++ made) observer .chat)
  · exact congrArg (Prod.mk _ ∘ (append · _) ∘ (record · _))
      (setMode_noting { stage with bench := bench } (calls ++ made) observer .chat)

theorem addBom_noting (context : TurnContext σ) :
    (stage.noting calls).addBom observer.noting context.noting =
      ((stage.addBom observer context).1,
        (stage.addBom observer context).2.noting (calls ++ stage.callsOf (.addBom context))) := by
  have samePending : (stage.noting calls).session.pending = stage.session.pending := rfl
  have sameBench : (stage.noting calls).bench = stage.bench.withCalls calls := rfl
  have sameInventory : context.noting.inventory = context.inventory := rfl
  unfold addBom callsOf reviewCalls
  rw [isBusy_noting, samePending, sameBench]
  cases flying : stage.session.turn with
  | some turn =>
      have busy : stage.session.isBusy = true := by rw [Session.isBusy, flying, Option.isSome_some]
      simp only [if_pos busy, List.append_nil]
  | none =>
      have free : ¬ stage.session.isBusy = true := by
        rw [Session.isBusy, flying, Option.isSome_none]
        exact Bool.false_ne_true
      simp only [if_neg free]
      cases stage.session.pending with
      | none => simp only [List.append_nil]
      | some bom =>
          simp only [bomCommands_withCalls]
          rcases bomCommands stage.bench [] bom.lines with ⟨fault | commands, bench⟩
          · simp only [List.append_nil]
            rfl
          · simp only [sameInventory]
            cases Reply.catalogOf context.inventory with
            | error fault =>
                simp only [List.append_nil]
                rfl
            | ok catalog =>
                exact executeBom_noting { stage with bench := bench } calls observer context
                  catalog bom commands

/-- A watched act is the act, and the calls made by it are noted. -/
theorem perform_noting (act : SessionAct σ) :
    (stage.noting calls).perform observer.noting act.noting =
      ((stage.perform observer act).1,
        (stage.perform observer act).2.noting (calls ++ stage.callsOf act)) := by
  cases act with
  | send context input =>
      rw [callsOf, List.append_nil]
      exact begin_noting stage calls observer context input
  | answer answer => exact finish_noting stage calls observer answer
  | timeOut =>
      have failed := finish_noting stage calls observer (.failed .timedOut)
      have noCalls : stage.callsOf (.answer (.failed .timedOut)) = stage.callsOf .timeOut := by
        unfold callsOf
        cases stage.session.turn <;> rfl
      rw [noCalls] at failed
      exact failed
  | cancel =>
      rw [callsOf, List.append_nil]
      exact cancel_noting stage calls observer
  | addBom context => exact addBom_noting stage calls observer context
  | dismissBom =>
      rw [callsOf, List.append_nil]
      exact dismissBom_noting stage calls observer

end Acts

end Stage

/-! ## The calls of a run -/

/-- The calls noted while the act is carried out at its watched stage. -/
def Occurrence.calls (observer : Observer σ) (occurred : Occurrence σ) : List NotedCall :=
  ((occurred.before.noting []).perform observer.noting occurred.act.noting).2.bench.state.calls

/-- The calls of an occurrence are those that its act makes at the stage before it. -/
theorem Occurrence.calls_eq (observer : Observer σ) (occurred : Occurrence σ) :
    occurred.calls observer = occurred.before.callsOf occurred.act := by
  rw [calls, Stage.perform_noting]
  exact List.nil_append _

/-- A watched run is the run, and the calls of its acts are noted in order. -/
theorem Stage.run_noting
    (observer : Observer σ) (stage : Stage σ) (calls : List NotedCall)
    (acts : List (SessionAct σ)) :
    (stage.noting calls).run observer.noting (acts.map SessionAct.noting) =
      (stage.run observer acts).noting
        (calls ++ (stage.occurrences observer acts).flatMap (Occurrence.calls observer)) := by
  induction acts generalizing stage calls with
  | nil =>
      rw [occurrences_nil, List.flatMap_nil, List.append_nil]
      rfl
  | cons act later inductionHypothesis =>
      rw [List.map_cons, run_cons, perform_noting, inductionHypothesis, occurrences_cons,
        List.flatMap_cons, Occurrence.calls_eq, List.append_assoc]
      rfl

end QuoteDesk
