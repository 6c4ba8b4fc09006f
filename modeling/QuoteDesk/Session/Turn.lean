import QuoteDesk.Analysis.Report
import QuoteDesk.Session.Basic
import QuoteDesk.Session.Classify

/-!
# Turns

A turn starts with a message of the user. The message is checked, the assistant is asked, and what
it answers is shown: the reply to a chat message after its directives were executed, or the document
about an analysed building. A turn that fails ends with an apology, whatever the cause.
-/

namespace QuoteDesk

open Number Text

/-- How a step of a session ends. -/
inductive StepOutcome where
  /-- The step was refused and changed nothing. -/
  | refused (fault : Fault)
  /-- There was nothing to do. -/
  | ignored
  /-- The assistant was asked and the turn is in flight. -/
  | waiting
  /-- The step ended with a message of the assistant. -/
  | answered (message : ChatMessage)
  | cancelled

namespace Session

/-! ## Checking a message -/

def refuseLength (length : Nat) (limit : Value) : Fault :=
  match limit.display with
  | .ok shown => .session (.because .invalidInput s!"Message exceeds {shown} characters"
      [("length", .int length), ("limit", limit)])
  | .error fault => .number fault

def refuseScript : Fault :=
  .session (.because .invalidInput "Message contains script markup"
    [("reason", .text "script_markup")])

def checkMessage (limits : SessionLimits) (message : String) : Except Fault Unit := do
  if ← (Value.int message.length).greater limits.maxChars then
    throw (refuseLength message.length limits.maxChars)
  if Message.hasScriptMark message then throw refuseScript

/-! ## The time for an answer -/

/-- How long an answer may take. -/
inductive Patience where
  | unlimited
  /-- There is no time at all: the assistant is not asked. -/
  | expired
  | limited
  /-- The time stated is none. -/
  | unusable (fault : Fault)

/-- The time that a value states; null states no bound. -/
def patience (timeout : Value) : Patience :=
  match timeout with
  | .null => .unlimited
  | value =>
    match value.atMost (.int 0) with
    | .ok true => .expired
    | .ok false => .limited
    | .error fault => .unusable fault

end Session

namespace Stage

/-! ## How a turn ends -/

/-- The message that a turn ends with, with notes on it. -/
def turnMessage (turn : Turn σ) (content : String) (notes : Entries) : ChatMessage :=
  ⟨.assistant, content, ("turn_id", .text (Session.turnName turn.number)) :: notes⟩

/-- Ends the flight of the turn. -/
def land (stage : Stage σ) : Stage σ :=
  { stage with session := { stage.session with turn := none } }

/-- Leaves an analysis that did not come to an end. A bill of materials from an earlier analysis
stays. -/
def abandon (observer : Observer σ) (stage : Stage σ) : Stage σ :=
  if stage.session.mode = .building then stage.setMode observer .chat else stage

def fail (observer : Observer σ) (turn : Turn σ) (fault : Fault) (stage : Stage σ) :
    StepOutcome × Stage σ :=
  let name := Session.turnName turn.number
  let stage := stage.record (.error Session.logger s!"Turn {name} failed: {fault.message}")
  let stage := (stage.abandon observer).publish observer (.turnFailed turn.number fault.line)
  let message := turnMessage turn Session.apology [("failed", .bool true)]
  (.answered message, (stage.append message).land)

def complete (observer : Observer σ) (turn : Turn σ) (message : ChatMessage) (stage : Stage σ) :
    StepOutcome × Stage σ :=
  (.answered message, (stage.publish observer (.turnCompleted turn.number message.content)).land)

/-- Tells which commands changed the quote, if any did. -/
def announce (observer : Observer σ) (turn : Turn σ) (executed : List Command) (stage : Stage σ) :
    Stage σ :=
  if executed.isEmpty then stage
  else stage.publish observer (.directivesExecuted turn.number executed)

def finishChat (observer : Observer σ) (turn : Turn σ) (reply : Value) (stage : Stage σ) :
    StepOutcome × Stage σ :=
  let (processed, bench) := Reply.process turn.context stage.bench reply
  let stage := { stage with bench := bench }
  match processed with
  | .error fault => stage.fail observer turn fault
  | .ok processed =>
    let message := turnMessage turn processed.cleaned [("executed", .int processed.executed.length)]
    ((stage.announce observer turn processed.executed).append message).complete observer turn message

/-- Puts the bill of materials of an analysis up for review, if there is anything on it. -/
def review (observer : Observer σ) (turn : Turn σ) (bom : Bom) (stage : Stage σ) : Stage σ :=
  if bom.lines.isEmpty then
    (stage.record (.info Session.logger
      s!"Building analysis {Session.turnName turn.number} produced an empty BOM")).setMode observer .chat
  else
    let stage := { stage with session := { stage.session with pending := some bom } }
    (stage.setMode observer .bomPreview).publish observer (.bomReady bom.lines.length)

def finishBuilding (observer : Observer σ) (turn : Turn σ) (analysis : Analysis) (stage : Stage σ) :
    StepOutcome × Stage σ :=
  match analysis.report with
  | .error fault => stage.fail observer turn fault
  | .ok text =>
    let message := turnMessage turn text [("bom_lines", .int analysis.bom.lines.length)]
    ((stage.append message).review observer turn analysis.bom).complete observer turn message

/-- The fault of a value that was answered where an analysis was asked for. -/
def noAnalysis (value : Value) : Fault :=
  .missingPart s!"'{value.typeName}' object has no attribute 'building_spec'"

/-- Ends a turn with what the assistant did. -/
def finishTurn (observer : Observer σ) (turn : Turn σ) (answer : BackendAnswer) (stage : Stage σ) :
    StepOutcome × Stage σ :=
  match answer with
  | .failed fault => stage.fail observer turn fault
  | .reply value =>
    if turn.building then stage.fail observer turn (noAnalysis value)
    else stage.finishChat observer turn value
  | .analysis analysis =>
    if turn.building then stage.finishBuilding observer turn analysis
    else stage.finishChat observer turn .null

/-- Ends the turn in flight with what the assistant did; without one nothing happens. -/
def finish (observer : Observer σ) (answer : BackendAnswer) (stage : Stage σ) :
    StepOutcome × Stage σ :=
  match stage.session.turn with
  | none => (.ignored, stage)
  | some turn => stage.finishTurn observer turn answer

/-- Cancels the turn in flight from outside; without one nothing happens. -/
def cancel (observer : Observer σ) (stage : Stage σ) : StepOutcome × Stage σ :=
  match stage.session.turn with
  | none => (.ignored, stage)
  | some turn =>
    let stage := stage.record (.info Session.logger s!"Turn {Session.turnName turn.number} cancelled")
    (.cancelled, (stage.abandon observer).land)

/-! ## How a turn starts -/

def requestOf (turn : Turn σ) (history : List ChatMessage) : BackendRequest :=
  if turn.building then .analyze turn.message else .chat turn.message history

/-- Leaves an earlier bill of materials for a new analysis. -/
def enterAnalysis (observer : Observer σ) (stage : Stage σ) : Stage σ :=
  { stage with session := { stage.session with pending := none } }.setMode observer .building

def start (observer : Observer σ) (context : TurnContext σ) (message : String) (stage : Stage σ) :
    StepOutcome × Stage σ :=
  let history := stage.session.history
  let turn : Turn σ :=
    ⟨stage.session.turns + 1, message, Message.isBuildingRequest message, context⟩
  let session := { stage.session with turn := some turn, turns := stage.session.turns + 1 }
  let stage := ({ stage with session := session }.append ⟨.user, message, []⟩).publish observer
    (.turnStarted turn.number turn.building)
  let stage := if turn.building then stage.enterAnalysis observer else stage
  match Session.patience stage.session.limits.timeout with
  | .expired => stage.fail observer turn .timedOut
  | .unusable fault => stage.fail observer turn fault
  | _ => (.waiting, stage.ask (requestOf turn history))

/-- Takes a message of the user. While a turn is in flight it is refused; a blank one is ignored. -/
def begin (observer : Observer σ) (context : TurnContext σ) (input : String) (stage : Stage σ) :
    StepOutcome × Stage σ :=
  if stage.session.isBusy then (.refused (.session (.plain .turnInProgress)), stage)
  else
    let message := trimText input
    if message.isEmpty then (.ignored, stage)
    else
      match Session.checkMessage stage.session.limits message with
      | .error fault => (.refused fault, stage)
      | .ok () => stage.start observer context message

/-- A whole turn: a message and what the assistant does with it. -/
def send (observer : Observer σ) (context : TurnContext σ) (input : String) (answer : BackendAnswer)
    (stage : Stage σ) : StepOutcome × Stage σ :=
  match stage.begin observer context input with
  | (.waiting, stage) => stage.finish observer answer
  | other => other

end Stage

end QuoteDesk
