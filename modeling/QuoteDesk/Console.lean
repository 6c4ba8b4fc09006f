import QuoteDesk.Chat.Command
import QuoteDesk.Session.Backend
import QuoteDesk.Session.Bom
import QuoteDesk.Session.Bus

/-!
# The console

The console is a session on lines of text. A line that is marked as a command is handled here; every
other line is a turn of the session. Changes of the quote are noticed and shown after the reply.
-/

namespace QuoteDesk

open Number

/-- A quote and the notices of its changes that are still to be shown. -/
structure WatchedQuote where
  quote : Quote
  notices : List String

namespace WatchedQuote

def empty : WatchedQuote := ⟨.empty, []⟩

/-- Carries a change of the quote over. -/
def changed (watched : WatchedQuote) (change : Change Quote) : Change WatchedQuote :=
  ⟨{ watched with quote := change.state }, change.log, change.failure⟩

def access : QuoteAccess WatchedQuote where
  add watched item amount := watched.changed (Quote.access.add watched.quote item amount)
  remove watched sku := watched.changed (Quote.access.remove watched.quote sku)

/-- The name under which records mention the console. -/
def label : String := "ConsoleApp._on_directives_executed"

/-- The name of the kind of event that the console watches. -/
def watchedKind : String := "DirectivesExecuted"

/-- The record made when the console starts to watch a session. -/
def watchRecord : LogRecord :=
  .debug EventBus.logger s!"Subscribed handler {label} to event type {watchedKind}"

/-- The notice of a number of changes. -/
def noticeText (changes : Nat) (total : Decimal) : String :=
  s!"[quote updated: {changes} change" ++ (if changes = 1 then "" else "s") ++ ", total " ++
    total.write ++ "]"

/-- Notes a number of changes; without a total there is no notice. -/
def noteChanges (watched : WatchedQuote) (changes : Nat) : WatchedQuote × List LogRecord :=
  match watched.quote.total with
  | .ok total => ({ watched with notices := watched.notices ++ [noticeText changes total] }, [])
  | .error _ =>
    (watched, [.error EventBus.logger s!"Handler {label} raised exception for event {watchedKind}"])

/-- Watches a session for commands that changed the quote. -/
def observer : Observer WatchedQuote where
  notice watched event :=
    match event with
    | .directivesExecuted _ commands =>
      let (watched, log) := watched.noteChanges commands.length
      (watched, .debug EventBus.logger s!"Publishing {watchedKind} to 1 handler(s)" :: log)
    | _ => (watched, [])

end WatchedQuote

/-! ## Showing the quote -/

namespace Quote

/-- A text filled with blanks up to a width. -/
def filled (width : Nat) (s : String) : String :=
  s ++ String.ofList (List.replicate (width - s.length) ' ')

def shownLine (line : QuoteLine) : Except Fault String := do
  let price ← match line.total with
    | none => pure ""
    | some total => do pure (" = " ++ (← total.mapError .arithmetic).write)
  let quantity ← (writeInteger line.quantity).mapError .number
  return filled 16 line.sku ++ " " ++ line.name ++ " x" ++ quantity ++ price ++
    (if line.isBackorder then " (backorder)" else "")

def shown (quote : Quote) : Except Fault String := do
  if quote.lines.isEmpty then return "Quote is empty."
  let lines ← quote.lines.mapM shownLine
  let total ← quote.total.mapError .arithmetic
  return "\n".intercalate (lines ++ ["Total: " ++ total.write])

def shownJson (quote : Quote) : Except Fault String := do
  let total ← quote.total.mapError .arithmetic
  let value := Value.dict [("lines", .list (quote.lines.map fun line => .dict line.toEntries)),
    ("total", .text total.write)]
  match Json.write .indented value with
  | .ok text => return text
  | .error (.number fault) => throw (.number fault)
  | .error fault => throw (.wrongType fault.message)

/-- A quote line as a prompt sees it. -/
def promptLine (line : QuoteLine) : Value :=
  .record [("sku", .text line.sku), ("name", .text line.name), ("quantity", .int line.quantity),
    ("unit_price", (line.unitPrice.map Value.decimal).getD .null),
    ("stock", (line.stock.map Value.int).getD .null)]

end Quote

/-! ## Lines -/

/-- A console: the session at work and the items of the catalog. -/
structure Console where
  stage : Stage WatchedQuote
  inventory : List Value

/-- How a line ends. -/
inductive LineOutcome where
  | continues
  | quits
  | fails (fault : Fault)

/-- What a line leads to: how it ends, the texts written, and the console and the state of the
backend after it. -/
structure LineResult (κ : Type) where
  outcome : LineOutcome
  written : List String
  console : Console
  state : κ

namespace Console

def logger : String := "quotewise.app"

def greeting : String := "Quotewise ready. Type /help for commands."

/-- What the console says before it reads a line. -/
def prompt : String := "> "

/-- A console for a session within limits. Diagnostics go to the log. -/
def start (limits : SessionLimits) (inventory : List Value) : Console :=
  ⟨.ofSession (.fresh limits) ⟨.empty, .log infoLevel, [WatchedQuote.watchRecord]⟩, inventory⟩

def quote (console : Console) : Quote :=
  console.stage.bench.state.quote

def context (console : Console) : TurnContext WatchedQuote :=
  ⟨.list console.inventory, WatchedQuote.access, .list (console.quote.lines.map Quote.promptLine)⟩

def record (console : Console) (entry : LogRecord) : Console :=
  { console with stage := console.stage.record entry }

def takeNotices (console : Console) : List String × Console :=
  let stage := console.stage
  let state := stage.bench.state
  (state.notices, { console with
    stage := { stage with bench := { stage.bench with state := { state with notices := [] } } } })

def takeLog (console : Console) : List LogRecord × Console :=
  let stage := console.stage
  (stage.bench.log, { console with stage := { stage with bench := { stage.bench with log := [] } } })

/-- A line after which the console goes on. -/
def goOn (console : Console) (written : List String) (state : κ) : LineResult κ :=
  ⟨.continues, written, console, state⟩

/-- A line that writes a text, unless there is none because of a fault. -/
def writeOr (console : Console) (text : Except Fault String) (state : κ) : LineResult κ :=
  match text with
  | .ok text => console.goOn [text] state
  | .error fault => ⟨.fails fault, [], console, state⟩

/-- A step of the session on a bill of materials; what is refused is said. -/
def bomStep (console : Console) (said : String) (step : StepOutcome × Stage WatchedQuote) (state : κ) :
    LineResult κ :=
  let console := { console with stage := step.2 }
  match step.1 with
  | .refused (.session fault) => console.goOn [fault.message] state
  | .refused fault => ⟨.fails fault, [], console, state⟩
  | .answered message => console.goOn [message.content] state
  | _ => console.goOn [said] state

def handleCommand (console : Console) (command : ChatCommand) (state : κ) : LineResult κ :=
  match command with
  | .quit => ⟨.quits, [], console, state⟩
  | .help => console.goOn [ChatCommand.helpText] state
  | .showQuote false => console.writeOr console.quote.shown state
  | .showQuote true => console.writeOr console.quote.shownJson state
  | .addBom =>
    console.bomStep "" (console.stage.addBom WatchedQuote.observer console.context) state
  | .dismissBom =>
    console.bomStep "Bill of materials dismissed." (console.stage.dismissBom WatchedQuote.observer) state

def handleTurn (backend : Backend κ) (console : Console) (line : String) (state : κ) : LineResult κ :=
  let (outcome, stage, state) :=
    console.stage.converse backend WatchedQuote.observer console.context line state
  let console := { console with stage := stage }
  match outcome with
  | .refused (.session fault) =>
    (console.record (.info logger ("Message rejected: " ++ fault.line))).goOn [fault.message] state
  | .refused fault => ⟨.fails fault, [], console, state⟩
  | .answered message =>
    let (notices, console) := console.takeNotices
    console.goOn (message.content :: notices) state
  | _ =>
    let (notices, console) := console.takeNotices
    console.goOn notices state

def handle (backend : Backend κ) (console : Console) (line : String) (state : κ) : LineResult κ :=
  match ChatRequest.read line with
  | .error fault => console.goOn [fault.message] state
  | .ok (some request) => console.handleCommand request.command state
  | .ok none => console.handleTurn backend line state

end Console

end QuoteDesk
