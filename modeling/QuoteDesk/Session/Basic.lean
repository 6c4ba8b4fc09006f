import QuoteDesk.Analysis.Basic
import QuoteDesk.Directive.Reply
import QuoteDesk.Session.Timestamp

/-!
# Sessions

A session is one conversation. It has a mode, a history that only grows, at most one bill of
materials that waits for review and at most one turn in flight.
-/

namespace QuoteDesk

open Number

inductive ChatRole where
  | user
  | assistant
deriving DecidableEq, Repr

def ChatRole.name : ChatRole → String
  | .user => "user"
  | .assistant => "assistant"

/-- The role with a name; every other name is taken as the assistant's. -/
def ChatRole.ofName (name : String) : ChatRole :=
  if name = ChatRole.user.name then .user else .assistant

/-- A message of the history, with notes on how it came about. -/
structure ChatMessage where
  role : ChatRole
  content : String
  metadata : Entries

namespace ChatMessage

def toPrompt (message : ChatMessage) : Entries :=
  [("role", .text message.role.name), ("content", .text message.content)]

/-- The message as a mapping, with the time at which it was made. -/
def toEntries (message : ChatMessage) (createdAt : Timestamp) : Entries :=
  message.toPrompt ++ [("created_at", .text createdAt.text), ("metadata", .dict message.metadata)]

end ChatMessage

/-- Which flow a session is in. -/
inductive SessionMode where
  | chat
  /-- A building is being analysed. -/
  | building
  /-- A bill of materials waits for review. -/
  | bomPreview
deriving DecidableEq, Repr

def SessionMode.name : SessionMode → String
  | .chat => "chat"
  | .building => "building"
  | .bomPreview => "bom"

/-- What happens in a session, for those who watch it. -/
inductive SessionEvent where
  | turnStarted (turn : Nat) (building : Bool)
  | directivesExecuted (turn : Nat) (commands : List Command)
  | turnCompleted (turn : Nat) (text : String)
  | turnFailed (turn : Nat) (error : String)
  | modeChanged (previous current : SessionMode)
  | bomReady (lines : Nat)

def SessionEvent.kind : SessionEvent → String
  | .turnStarted _ _ => "TurnStarted"
  | .directivesExecuted _ _ => "DirectivesExecuted"
  | .turnCompleted _ _ => "TurnCompleted"
  | .turnFailed _ _ => "TurnFailed"
  | .modeChanged _ _ => "AnalysisModeChanged"
  | .bomReady _ => "BomReady"

def SessionEvent.kinds : List String :=
  ["TurnStarted", "DirectivesExecuted", "TurnCompleted", "TurnFailed", "AnalysisModeChanged",
    "BomReady"]

/-- What a session asks the assistant for. -/
inductive BackendRequest where
  | chat (message : String) (history : List ChatMessage)
  | analyze (description : String)

/-- What the assistant does with a request. -/
inductive BackendAnswer where
  | reply (value : Value)
  | analysis (analysis : Analysis)
  | failed (fault : Fault)

/-- The bounds of a session: the greatest length of a message and the time for an answer. -/
structure SessionLimits where
  maxChars : Value
  timeout : Value

/-- The bounds of a session that sets none: 500 characters and 90 seconds. -/
def SessionLimits.standard : SessionLimits :=
  ⟨.int 500, .float (Binary64.ofInt 90)⟩

/-- A turn that waits for the assistant. -/
structure Turn (σ : Type) where
  number : Nat
  message : String
  building : Bool
  context : TurnContext σ

/-- One conversation. -/
structure Session (σ : Type) where
  limits : SessionLimits
  mode : SessionMode
  history : List ChatMessage
  pending : Option Bom
  turn : Option (Turn σ)
  /-- How many turns were started. -/
  turns : Nat

namespace Session

def fresh (limits : SessionLimits) : Session σ :=
  ⟨limits, .chat, [], none, none, 0⟩

def isBusy (session : Session σ) : Bool :=
  session.turn.isSome

def turnName (number : Nat) : String :=
  s!"turn-{number}"

def logger : String := "quotewise.session.orchestrator"

def apology : String :=
  "I apologize, but I encountered an error processing your request. " ++
    "Please try again or contact support if the issue persists."

end Session

/-- A session at work: the session, the bench at which its directives are executed, the events
published and the requests made so far. -/
structure Stage (σ : Type) where
  session : Session σ
  bench : Bench σ
  events : List SessionEvent
  asked : List BackendRequest

/-- Those who watch a session. They may change the state behind the quote's operations and make
records; they cannot stop the session. -/
structure Observer (σ : Type) where
  notice : σ → SessionEvent → σ × List LogRecord

namespace Observer

def none : Observer σ := ⟨fun state _ => (state, [])⟩

end Observer

namespace Stage

/-- A stage for a session. -/
def ofSession (session : Session σ) (bench : Bench σ) : Stage σ :=
  ⟨session, bench, [], []⟩

def record (stage : Stage σ) (entry : LogRecord) : Stage σ :=
  { stage with bench := stage.bench.record entry }

/-- Tells those who watch what happened. -/
def publish (observer : Observer σ) (stage : Stage σ) (event : SessionEvent) : Stage σ :=
  let (state, log) := observer.notice stage.bench.state event
  { stage with
    bench := { stage.bench with state := state, log := stage.bench.log ++ log }
    events := stage.events ++ [event] }

def append (stage : Stage σ) (message : ChatMessage) : Stage σ :=
  { stage with session := { stage.session with history := stage.session.history ++ [message] } }

/-- Notes a request to the assistant. -/
def ask (stage : Stage σ) (request : BackendRequest) : Stage σ :=
  { stage with asked := stage.asked ++ [request] }

/-- Changes the mode; a change to chat drops the bill of materials. Only a real change is told. -/
def setMode (observer : Observer σ) (mode : SessionMode) (stage : Stage σ) : Stage σ :=
  let previous := stage.session.mode
  let pending := if mode = .chat then none else stage.session.pending
  let stage := { stage with session := { stage.session with mode := mode, pending := pending } }
  if previous = mode then stage
  else
    (stage.record (.debug Session.logger s!"Analysis mode {previous.name} -> {mode.name}")).publish
      observer (.modeChanged previous mode)

end Stage

end QuoteDesk
