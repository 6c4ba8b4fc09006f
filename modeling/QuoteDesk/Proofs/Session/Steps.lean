import QuoteDesk.Proofs.Session.Runs

/-!
# What an act can do

Every way in which an act can end is one case of a relation: what it took, the
session it leads to, the events it publishes and the requests it makes.  What
holds along runs is proved from these cases.
-/

namespace QuoteDesk

open Number Text

variable {σ : Type}

/-! ## Changes of a session -/

/-- The event of a change of the mode; a mode that stays is no event. -/
def modeChange (previous current : SessionMode) : List SessionEvent :=
  if previous = current then [] else [.modeChanged previous current]

def Turn.failure (turn : Turn σ) : ChatMessage :=
  Stage.turnMessage turn Session.apology [("failed", .bool true)]

def Turn.announcement (turn : Turn σ) (executed : List Command) : List SessionEvent :=
  if executed.isEmpty then [] else [.directivesExecuted turn.number executed]

namespace Session

def withMode (mode : SessionMode) (session : Session σ) : Session σ :=
  { session with mode := mode, pending := if mode = .chat then none else session.pending }

def saying (session : Session σ) (message : ChatMessage) : Session σ :=
  { session with history := session.history ++ [message] }

def landed (session : Session σ) : Session σ :=
  { session with turn := none }

def abandoned (session : Session σ) : Session σ :=
  if session.mode = .building then session.withMode .chat else session

def leaving (session : Session σ) : List SessionEvent :=
  if session.mode = .building then [.modeChanged .building .chat] else []

def failed (session : Session σ) (turn : Turn σ) : Session σ :=
  (session.abandoned.saying turn.failure).landed

def failing (session : Session σ) (turn : Turn σ) (fault : Fault) : List SessionEvent :=
  session.leaving ++ [.turnFailed turn.number fault.line]

/-- The session with a bill of materials to review, or back in chat when there is
nothing on it. -/
def reviewing (session : Session σ) (bom : Bom) : Session σ :=
  if bom.lines.isEmpty then session.withMode .chat
  else { session with pending := some bom }.withMode .bomPreview

def presenting (session : Session σ) (bom : Bom) : List SessionEvent :=
  if bom.lines.isEmpty then modeChange session.mode .chat
  else modeChange session.mode .bomPreview ++ [.bomReady bom.lines.length]

def nextTurn (session : Session σ) (context : TurnContext σ) (message : String) : Turn σ :=
  ⟨session.turns + 1, message, Message.isBuildingRequest message, context⟩

def flying (session : Session σ) (turn : Turn σ) : Session σ :=
  { session with
    history := session.history ++ [Chapter.opening turn.message]
    turn := some turn
    turns := turn.number }

/-- The session in which a turn has begun; a building turn leaves an earlier bill
of materials. -/
def opened (session : Session σ) (turn : Turn σ) : Session σ :=
  if turn.building then { session.flying turn with pending := none }.withMode .building
  else session.flying turn

def opening (session : Session σ) (turn : Turn σ) : List SessionEvent :=
  .turnStarted turn.number turn.building ::
    if turn.building then modeChange session.mode .building else []

/-- A message is taken when no turn is in flight, it is not blank and it keeps the
bounds. -/
def Takes (session : Session σ) (input : String) : Prop :=
  session.turn = none ∧ (trimText input).isEmpty = false ∧
    checkMessage session.limits (trimText input) = .ok ()

theorem idle_of_not_busy
    {session : Session σ} (free : ¬ session.isBusy = true) : session.turn = none := by
  simpa [isBusy] using free

end Session

namespace Stage

/-! ## The parts of an act -/

/-- What a stretch of work leaves of a stage. -/
structure Leads
    (stage after : Stage σ) (session : Session σ)
    (events : List SessionEvent) (requests : List BackendRequest) : Prop where
  reaches : after.session = session
  tells : after.events = stage.events ++ events
  asks : after.asked = stage.asked ++ requests

namespace Leads

theorem atBench (stage : Stage σ) (bench : Bench σ) :
    stage.Leads { stage with bench := bench } stage.session [] [] :=
  ⟨rfl, (List.append_nil _).symm, (List.append_nil _).symm⟩

theorem refl (stage : Stage σ) : stage.Leads stage stage.session [] [] :=
  atBench stage stage.bench

variable {stage after : Stage σ} {session : Session σ}
  {events : List SessionEvent} {requests : List BackendRequest}

theorem publish
    (leads : stage.Leads after session events requests)
    (observer : Observer σ) (event : SessionEvent) :
    stage.Leads (after.publish observer event) session (events ++ [event]) requests where
  reaches := leads.reaches
  tells := by
    have published : (after.publish observer event).events = after.events ++ [event] := rfl
    rw [published, leads.tells, List.append_assoc]
  asks := leads.asks

theorem record
    (leads : stage.Leads after session events requests) (entry : LogRecord) :
    stage.Leads (after.record entry) session events requests :=
  ⟨leads.reaches, leads.tells, leads.asks⟩

theorem ask
    (leads : stage.Leads after session events requests) (request : BackendRequest) :
    stage.Leads (after.ask request) session events (requests ++ [request]) where
  reaches := leads.reaches
  tells := leads.tells
  asks := by
    have noted : (after.ask request).asked = after.asked ++ [request] := rfl
    rw [noted, leads.asks, List.append_assoc]

theorem append
    (leads : stage.Leads after session events requests) (message : ChatMessage) :
    stage.Leads (after.append message) (session.saying message) events requests where
  reaches := by
    rw [← leads.reaches]
    rfl
  tells := leads.tells
  asks := leads.asks

theorem land
    (leads : stage.Leads after session events requests) :
    stage.Leads after.land session.landed events requests where
  reaches := by
    rw [← leads.reaches]
    rfl
  tells := leads.tells
  asks := leads.asks

theorem setMode
    (leads : stage.Leads after session events requests)
    (observer : Observer σ) (mode : SessionMode) :
    stage.Leads (after.setMode observer mode) (session.withMode mode)
      (events ++ modeChange session.mode mode) requests := by
  have reached := leads.reaches
  subst reached
  unfold Stage.setMode modeChange
  by_cases same : after.session.mode = mode
  · rw [if_pos same, if_pos same, List.append_nil]
    exact ⟨rfl, leads.tells, leads.asks⟩
  · rw [if_neg same, if_neg same]
    apply publish
    apply record
    exact ⟨rfl, leads.tells, leads.asks⟩

theorem abandon
    (leads : stage.Leads after session events requests) (observer : Observer σ) :
    stage.Leads (after.abandon observer) session.abandoned (events ++ session.leaving)
      requests := by
  have reached := leads.reaches
  subst reached
  unfold Stage.abandon Session.abandoned Session.leaving
  by_cases building : after.session.mode = .building
  · rw [if_pos building, if_pos building, if_pos building]
    have moved := leads.setMode observer .chat
    rw [building] at moved
    exact moved
  · rw [if_neg building, if_neg building, if_neg building, List.append_nil]
    exact leads

theorem fail
    (leads : stage.Leads after session events requests)
    (observer : Observer σ) (turn : Turn σ) (fault : Fault) :
    stage.Leads (after.fail observer turn fault).2 (session.failed turn)
      (events ++ session.failing turn fault) requests := by
  rw [Session.failing, ← List.append_assoc]
  apply land
  apply append
  apply publish
  apply abandon
  exact leads.record _

theorem review
    (leads : stage.Leads after session events requests)
    (observer : Observer σ) (turn : Turn σ) (bom : Bom) :
    stage.Leads (after.review observer turn bom) (session.reviewing bom)
      (events ++ session.presenting bom) requests := by
  have reached := leads.reaches
  subst reached
  unfold Stage.review Session.reviewing Session.presenting
  by_cases blank : bom.lines.isEmpty
  · rw [if_pos blank, if_pos blank, if_pos blank]
    apply setMode
    exact leads.record _
  · rw [if_neg blank, if_neg blank, if_neg blank, ← List.append_assoc]
    apply publish
    have pending : stage.Leads
        { after with session := { after.session with pending := some bom } }
        { after.session with pending := some bom } events requests :=
      ⟨rfl, leads.tells, leads.asks⟩
    exact pending.setMode observer .bomPreview

theorem announce
    (leads : stage.Leads after session events requests)
    (observer : Observer σ) (turn : Turn σ) (executed : List Command) :
    stage.Leads (after.announce observer turn executed) session
      (events ++ turn.announcement executed) requests := by
  unfold Stage.announce Turn.announcement
  by_cases nothing : executed.isEmpty
  · rw [if_pos nothing, if_pos nothing, List.append_nil]
    exact leads
  · rw [if_neg nothing, if_neg nothing]
    exact leads.publish observer _

end Leads

end Stage

/-! ## The ways in which an act ends -/

/-- The outcomes of an act that was not carried out. -/
inductive StepOutcome.Quiet : StepOutcome → Prop where
  | ignored : StepOutcome.ignored.Quiet
  | refused (fault : Fault) : (StepOutcome.refused fault).Quiet

namespace Stage

/-- Why an answer makes the turn in flight fail. -/
inductive Fails (stage : Stage σ) (turn : Turn σ) : BackendAnswer → Fault → Prop where
  | assistant (fault : Fault) : Fails stage turn (.failed fault) fault
  | noAnalysis {value : Value}
      (building : turn.building = true) : Fails stage turn (.reply value) (noAnalysis value)
  | processing {value : Value} {fault : Fault}
      (chat : turn.building = false)
      (raised : (Reply.process turn.context stage.bench value).1 = .error fault) :
      Fails stage turn (.reply value) fault
  | report {analysis : Analysis} {fault : Fault}
      (building : turn.building = true)
      (raised : analysis.report = .error fault) :
      Fails stage turn (.analysis analysis) fault

/-- Why there is no time to ask the assistant. -/
inductive Hopeless (timeout : Value) : Fault → Prop where
  | expired (none : Session.patience timeout = .expired) : Hopeless timeout .timedOut
  | unusable {fault : Fault} (none : Session.patience timeout = .unusable fault) :
      Hopeless timeout fault

/-- What a chat turn works on: the reply, or nothing when something else was
answered. -/
inductive Replies : BackendAnswer → Value → Prop where
  | reply (value : Value) : Replies (.reply value) value
  | analysis (analysis : Analysis) : Replies (.analysis analysis) .null

def reviewMessage : Except Fault (List Command) → ChatMessage
  | .error _ => ⟨.assistant, Session.apology, [("failed", .bool true)]⟩
  | .ok executed =>
      ⟨.assistant, Analysis.confirmation executed.length, [("bom_added", .int executed.length)]⟩

/-- The acts that bring an answer to the turn in flight. -/
inductive Brings : SessionAct σ → BackendAnswer → Prop where
  | answer (answer : BackendAnswer) : Brings (.answer answer) answer
  | timeOut : Brings .timeOut (.failed .timedOut)

/-- How an act ends, at which stage, with which events and requests. -/
inductive Moves (stage : Stage σ) : SessionAct σ → StepOutcome → Stage σ → Prop where
  /-- It is refused or ignored. -/
  | stays {act : SessionAct σ} {outcome : StepOutcome} {after : Stage σ}
      (quiet : outcome.Quiet)
      (untaken : ∀ context input, act = .send context input → ¬ stage.session.Takes input)
      (leads : stage.Leads after stage.session [] []) : Moves stage act outcome after
  | waits {context : TurnContext σ} {input : String} {turn : Turn σ} {after : Stage σ}
      (taken : stage.session.Takes input)
      (next : turn = stage.session.nextTurn context (trimText input))
      (leads : stage.Leads after (stage.session.opened turn) (stage.session.opening turn)
        [requestOf turn stage.session.history]) : Moves stage (.send context input) .waiting after
  /-- There is no time to ask. -/
  | expires {context : TurnContext σ} {input : String} {turn : Turn σ} {fault : Fault}
      {after : Stage σ}
      (taken : stage.session.Takes input)
      (next : turn = stage.session.nextTurn context (trimText input))
      (hopeless : Hopeless stage.session.limits.timeout fault)
      (leads : stage.Leads after ((stage.session.opened turn).failed turn)
        (stage.session.opening turn ++ (stage.session.opened turn).failing turn fault) []) :
      Moves stage (.send context input) (.answered turn.failure) after
  | fails {act : SessionAct σ} {answer : BackendAnswer} {turn : Turn σ} {fault : Fault}
      {after : Stage σ}
      (brings : Brings act answer)
      (flying : stage.session.turn = some turn)
      (cause : Fails stage turn answer fault)
      (leads : stage.Leads after (stage.session.failed turn) (stage.session.failing turn fault) []) :
      Moves stage act (.answered turn.failure) after
  /-- A chat turn ends with the cleaned reply. -/
  | replies {answer : BackendAnswer} {turn : Turn σ} {value : Value} {processed : Processed}
      {message : ChatMessage} {after : Stage σ}
      (flying : stage.session.turn = some turn)
      (chat : turn.building = false)
      (replied : Replies answer value)
      (returned : (Reply.process turn.context stage.bench value).1 = .ok processed)
      (said : message =
        turnMessage turn processed.cleaned [("executed", .int processed.executed.length)])
      (leads : stage.Leads after (stage.session.saying message).landed
        (turn.announcement processed.executed ++ [.turnCompleted turn.number message.content]) []) :
      Moves stage (.answer answer) (.answered message) after
  /-- A building turn ends with the document about the analysis. -/
  | analyses {analysis : Analysis} {turn : Turn σ} {text : String} {message : ChatMessage}
      {after : Stage σ}
      (flying : stage.session.turn = some turn)
      (building : turn.building = true)
      (shown : analysis.report = .ok text)
      (said : message =
        turnMessage turn text [("bom_lines", .int analysis.bom.lines.length)])
      (leads : stage.Leads after ((stage.session.saying message).reviewing analysis.bom).landed
        (stage.session.presenting analysis.bom ++ [.turnCompleted turn.number message.content])
        []) :
      Moves stage (.answer (.analysis analysis)) (.answered message) after
  | cancels {turn : Turn σ} {after : Stage σ}
      (flying : stage.session.turn = some turn)
      (leads : stage.Leads after stage.session.abandoned.landed stage.session.leaving []) :
      Moves stage .cancel .cancelled after
  /-- The commands of a bill of materials were executed up to the first failure. -/
  | adds {context : TurnContext σ} {bom : Bom} {commands : List Command} {bench : Bench σ}
      {catalog : Catalog} {message : ChatMessage} {after : Stage σ}
      (idle : stage.session.turn = none)
      (waiting : stage.session.pending = some bom)
      (checked : bomCommands stage.bench [] bom.lines = (.ok commands, bench))
      (indexed : Reply.catalogOf context.inventory = .ok catalog)
      (said : message =
        reviewMessage (Command.execute context.access catalog bench commands).1)
      (leads : stage.Leads after ((stage.session.withMode .chat).saying message)
        (modeChange stage.session.mode .chat) []) :
      Moves stage (.addBom context) (.answered message) after
  | dismisses {after : Stage σ}
      (idle : stage.session.turn = none)
      (leads : stage.Leads after (stage.session.withMode .chat)
        (modeChange stage.session.mode .chat) []) :
      Moves stage .dismissBom .ignored after

namespace Moves

theorem still
    {stage : Stage σ} {act : SessionAct σ} {outcome : StepOutcome}
    (quiet : outcome.Quiet)
    (untaken : ∀ context input, act = .send context input → ¬ stage.session.Takes input) :
    Moves stage act outcome stage :=
  stays quiet untaken (Leads.refl stage)

end Moves

/-! ## Every act ends in one of these ways -/

/-- The stage at which a turn has begun and its patience is looked at. -/
def opening (observer : Observer σ) (turn : Turn σ) (stage : Stage σ) : Stage σ :=
  let begun := { stage with session := stage.session.flying turn }.publish observer
    (.turnStarted turn.number turn.building)
  if turn.building then begun.enterAnalysis observer else begun

theorem opening_leads (observer : Observer σ) (turn : Turn σ) (stage : Stage σ) :
    stage.Leads (stage.opening observer turn) (stage.session.opened turn)
      (stage.session.opening turn) [] := by
  have flying :
      stage.Leads { stage with session := stage.session.flying turn }
        (stage.session.flying turn) [] [] :=
    ⟨rfl, (List.append_nil _).symm, (List.append_nil _).symm⟩
  have begun := flying.publish observer (.turnStarted turn.number turn.building)
  unfold Stage.opening Session.opened Session.opening
  by_cases building : turn.building
  · rw [if_pos building, if_pos building, if_pos building]
    have left :
        stage.Leads
          { Stage.publish observer { stage with session := stage.session.flying turn }
              (.turnStarted turn.number turn.building) with
            session := { stage.session.flying turn with pending := none } }
          { stage.session.flying turn with pending := none }
          [.turnStarted turn.number turn.building] [] :=
      ⟨rfl, begun.tells, begun.asks⟩
    exact left.setMode observer .building
  · rw [if_neg building, if_neg building, if_neg building]
    exact begun

theorem opened_limits (session : Session σ) (turn : Turn σ) :
    (session.opened turn).limits = session.limits := by
  unfold Session.opened
  split <;> rfl

theorem start_eq
    (observer : Observer σ) (context : TurnContext σ) (message : String) (stage : Stage σ) :
    stage.start observer context message =
      let turn := stage.session.nextTurn context message
      let begun := stage.opening observer turn
      match Session.patience stage.session.limits.timeout with
      | .expired => begun.fail observer turn .timedOut
      | .unusable fault => begun.fail observer turn fault
      | _ => (.waiting, begun.ask (requestOf turn stage.session.history)) := by
  have begun := opening_leads observer (stage.session.nextTurn context message) stage
  have limits :
      (stage.opening observer (stage.session.nextTurn context message)).session.limits =
        stage.session.limits := by
    rw [begun.reaches, opened_limits]
  rw [← limits]
  unfold Stage.start Stage.opening Session.nextTurn
  -- Which words the message has is not looked at.
  generalize Message.isBuildingRequest message = building
  rfl

theorem start_moves
    {stage : Stage σ} {input : String}
    (taken : stage.session.Takes input) (observer : Observer σ) (context : TurnContext σ) :
    Moves stage (.send context input) (stage.start observer context (trimText input)).1
      (stage.start observer context (trimText input)).2 := by
  rw [start_eq]
  generalize next : stage.session.nextTurn context (trimText input) = turn
  have begun := opening_leads observer turn stage
  cases time : Session.patience stage.session.limits.timeout with
  | unlimited => exact .waits taken next.symm (begun.ask (requestOf turn stage.session.history))
  | limited => exact .waits taken next.symm (begun.ask (requestOf turn stage.session.history))
  | expired =>
      exact .expires taken next.symm (.expired time) (begun.fail observer turn .timedOut)
  | unusable fault =>
      exact .expires taken next.symm (.unusable time) (begun.fail observer turn fault)

theorem begin_of_untaken
    {stage : Stage σ} {input : String}
    (untaken : ¬ stage.session.Takes input) (observer : Observer σ) (context : TurnContext σ) :
    (stage.begin observer context input).1.Quiet ∧
      (stage.begin observer context input).2 = stage := by
  unfold Stage.begin
  by_cases busy : stage.session.isBusy
  · rw [if_pos busy]
    exact ⟨.refused _, rfl⟩
  · rw [if_neg busy]
    have idle := Session.idle_of_not_busy busy
    by_cases blank : (trimText input).isEmpty
    · dsimp only
      rw [if_pos blank]
      exact ⟨.ignored, rfl⟩
    · dsimp only
      rw [if_neg blank]
      cases checked : Session.checkMessage stage.session.limits (trimText input) with
      | error fault => exact ⟨.refused fault, rfl⟩
      | ok _ =>
          have taken : stage.session.Takes input :=
            ⟨idle, Bool.eq_false_iff.2 blank, checked⟩
          exact absurd taken untaken

theorem begin_of_taken
    {stage : Stage σ} {input : String}
    (taken : stage.session.Takes input) (observer : Observer σ) (context : TurnContext σ) :
    stage.begin observer context input = stage.start observer context (trimText input) := by
  obtain ⟨idle, inked, checked⟩ := taken
  simp only [Stage.begin, Session.isBusy, idle, inked, checked, Option.isSome_none,
    Bool.false_eq_true, if_false]

theorem begin_moves
    (observer : Observer σ) (context : TurnContext σ) (input : String) (stage : Stage σ) :
    Moves stage (.send context input) (stage.begin observer context input).1
      (stage.begin observer context input).2 := by
  by_cases taken : stage.session.Takes input
  · rw [begin_of_taken taken]
    exact start_moves taken observer context
  · obtain ⟨quiet, same⟩ := begin_of_untaken taken observer context
    rw [same]
    apply Moves.still quiet
    intro _ _ sent
    cases sent
    exact taken

theorem finishChat_moves
    {stage : Stage σ} {turn : Turn σ} {answer : BackendAnswer} {value : Value}
    (flying : stage.session.turn = some turn) (chat : turn.building = false)
    (replied : Replies answer value) (observer : Observer σ) :
    Moves stage (.answer answer) (stage.finishChat observer turn value).1
      (stage.finishChat observer turn value).2 := by
  unfold Stage.finishChat
  cases work : Reply.process turn.context stage.bench value with
  | mk result bench =>
      have worked := Leads.atBench stage bench
      have result_eq : (Reply.process turn.context stage.bench value).1 = result := by
        rw [work]
      cases result with
      | error fault =>
          cases replied with
          | reply =>
              exact .fails (.answer _) flying (.processing chat result_eq)
                (worked.fail observer turn fault)
          | analysis => cases result_eq
      | ok processed =>
          exact .replies flying chat replied result_eq rfl
            ((((worked.announce observer turn processed.executed).append _).publish
              observer _).land)

theorem finishBuilding_moves
    {stage : Stage σ} {turn : Turn σ}
    (flying : stage.session.turn = some turn) (building : turn.building = true)
    (observer : Observer σ) (analysis : Analysis) :
    Moves stage (.answer (.analysis analysis)) (stage.finishBuilding observer turn analysis).1
      (stage.finishBuilding observer turn analysis).2 := by
  unfold Stage.finishBuilding
  cases shown : analysis.report with
  | error fault =>
      exact .fails (.answer _) flying (.report building shown)
        ((Leads.refl stage).fail observer turn fault)
  | ok text =>
      exact .analyses flying building shown rfl
        (((((Leads.refl stage).append _).review observer turn analysis.bom).publish
          observer _).land)

/-- The end of a turn is one of the moves. -/
theorem finish_moves
    {act : SessionAct σ} {answer : BackendAnswer}
    (brings : Brings act answer) (observer : Observer σ) (stage : Stage σ) :
    Moves stage act (stage.finish observer answer).1 (stage.finish observer answer).2 := by
  unfold Stage.finish
  cases flying : stage.session.turn with
  | none =>
      cases brings <;> exact .still .ignored nofun
  | some turn =>
      unfold Stage.finishTurn
      cases answer with
      | failed fault =>
          exact .fails brings flying (.assistant fault)
            ((Leads.refl stage).fail observer turn fault)
      | reply value =>
          cases brings
          by_cases building : turn.building
          · simp only [building, if_true]
            exact .fails (.answer _) flying (.noAnalysis building)
              ((Leads.refl stage).fail observer turn _)
          · have chat : turn.building = false := Bool.eq_false_iff.2 building
            simp only [chat]
            exact finishChat_moves flying chat (.reply value) observer
      | analysis analysis =>
          cases brings
          by_cases building : turn.building
          · simp only [building, if_true]
            exact finishBuilding_moves flying building observer analysis
          · have chat : turn.building = false := Bool.eq_false_iff.2 building
            simp only [chat]
            exact finishChat_moves flying chat (.analysis analysis) observer

theorem cancel_moves (observer : Observer σ) (stage : Stage σ) :
    Moves stage .cancel (stage.cancel observer).1 (stage.cancel observer).2 := by
  unfold Stage.cancel
  cases flying : stage.session.turn with
  | none =>
      exact .still .ignored nofun
  | some turn =>
      exact .cancels flying ((((Leads.refl stage).record _).abandon observer).land)

theorem executeBom_moves
    {stage : Stage σ} {context : TurnContext σ} {bom : Bom} {commands : List Command}
    {bench : Bench σ} {catalog : Catalog}
    (idle : stage.session.turn = none)
    (waiting : stage.session.pending = some bom)
    (checked : bomCommands stage.bench [] bom.lines = (.ok commands, bench))
    (indexed : Reply.catalogOf context.inventory = .ok catalog)
    (observer : Observer σ) :
    Moves stage (.addBom context)
      (executeBom observer context catalog bom commands { stage with bench := bench }).1
      (executeBom observer context catalog bom commands { stage with bench := bench }).2 := by
  unfold Stage.executeBom
  cases run : Command.execute context.access catalog bench commands with
  | mk result executedBench =>
      have worked := Leads.atBench stage executedBench
      have result_eq :
          (Command.execute context.access catalog bench commands).1 = result := by
        rw [run]
      cases result with
      | error fault =>
          refine .adds idle waiting checked indexed (congrArg reviewMessage result_eq).symm ?_
          exact ((worked.record _).append _).setMode observer .chat
      | ok executed =>
          refine .adds idle waiting checked indexed (congrArg reviewMessage result_eq).symm ?_
          exact ((worked.setMode observer .chat).record _).append _

theorem addBom_moves (observer : Observer σ) (context : TurnContext σ) (stage : Stage σ) :
    Moves stage (.addBom context) (stage.addBom observer context).1
      (stage.addBom observer context).2 := by
  unfold Stage.addBom
  by_cases busy : stage.session.isBusy
  · rw [if_pos busy]
    exact .still (.refused _) nofun
  · rw [if_neg busy]
    have idle := Session.idle_of_not_busy busy
    cases waiting : stage.session.pending with
    | none => exact .still (.refused _) nofun
    | some bom =>
        simp only
        cases checked : bomCommands stage.bench [] bom.lines with
        | mk result bench =>
            have worked := Leads.atBench stage bench
            cases result with
            | error fault => exact .stays (.refused fault) nofun worked
            | ok commands =>
                simp only
                cases indexed : Reply.catalogOf context.inventory with
                | error fault => exact .stays (.refused fault) nofun worked
                | ok catalog => exact executeBom_moves idle waiting checked indexed observer

theorem dismissBom_moves (observer : Observer σ) (stage : Stage σ) :
    Moves stage .dismissBom (stage.dismissBom observer).1 (stage.dismissBom observer).2 := by
  unfold Stage.dismissBom
  by_cases busy : stage.session.isBusy
  · rw [if_pos busy]
    exact .still (.refused _) nofun
  · rw [if_neg busy]
    have idle := Session.idle_of_not_busy busy
    by_cases nothing : stage.session.pending.isNone && stage.session.mode = .chat
    · rw [if_pos nothing]
      exact .still .ignored nofun
    · rw [if_neg nothing]
      exact .dismisses idle ((Leads.refl stage).setMode observer .chat)

/-- Every act is one of the moves. -/
theorem perform_moves (observer : Observer σ) (stage : Stage σ) (act : SessionAct σ) :
    Moves stage act (stage.perform observer act).1 (stage.perform observer act).2 := by
  cases act with
  | send context input => exact begin_moves observer context input stage
  | answer answer => exact finish_moves (.answer answer) observer stage
  | timeOut => exact finish_moves .timeOut observer stage
  | cancel => exact cancel_moves observer stage
  | addBom context => exact addBom_moves observer context stage
  | dismissBom => exact dismissBom_moves observer stage

end Stage

end QuoteDesk
