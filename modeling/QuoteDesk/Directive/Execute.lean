import QuoteDesk.Diagnostic
import QuoteDesk.Directive.Command
import QuoteDesk.Quote.Access

/-!
# Executing commands

Directives are checked and commands are executed at a bench, which holds the state behind the
quote's operations, the sink of diagnostics and the records made so far. Commands run in order. The
first operation that fails ends the run; what ran before it stands.
-/

namespace QuoteDesk

/-- Where directives are worked on: the state behind the quote, the sink and the records. -/
structure Bench (σ : Type) where
  state : σ
  sink : DiagnosticSink
  log : List LogRecord

namespace Bench

def record (bench : Bench σ) (entry : LogRecord) : Bench σ :=
  { bench with log := bench.log ++ [entry] }

def report (bench : Bench σ) (diagnostic : Diagnostic) : Bench σ :=
  let (sink, log) := bench.sink.report diagnostic
  { bench with sink := sink, log := bench.log ++ log }

/-- Takes over what an operation on the quote led to. -/
def after (bench : Bench σ) (change : Change σ) : Bench σ :=
  { bench with state := change.state, log := bench.log ++ change.log }

end Bench

/-! ## Checking directives -/

namespace Directive

/-- A span as a value: its two bounds. -/
def spanValue (span : Span) : Value :=
  .list [.int span.start, .int span.stop]

/-- The diagnostic of a directive that breaks a rule. -/
def rejection (directive : Directive) (reason : DropReason) (message : String) : Diagnostic :=
  ⟨reason, directive.kind.name, directive.sku,
    [("message", .text message), ("span", spanValue directive.span)]⟩

/-- Checks a directive. One that breaks a rule is reported and gives no command; any other fault is
passed on. -/
def check (bench : Bench σ) (directive : Directive) : Except Fault (Option Command) × Bench σ :=
  match Command.ofDirective directive with
  | .ok command => (.ok command, bench)
  | .error (.refusedCommand reason message) =>
    (.ok none, bench.report (directive.rejection reason message))
  | .error fault => (.error fault, bench)

end Directive

/-- Directives with their commands, up to the first fault, and the fault. -/
structure Checked where
  pairs : List (Directive × Option Command)
  failure : Option Fault

namespace Checked

def commands (checked : Checked) : List Command :=
  checked.pairs.filterMap Prod.snd

end Checked

/-- Checks directives in order, up to the first fault. -/
def checkAll (bench : Bench σ) : List Directive → Checked × Bench σ
  | [] => (⟨[], none⟩, bench)
  | directive :: rest =>
    match directive.check bench with
    | (.error fault, bench) => (⟨[], some fault⟩, bench)
    | (.ok command, bench) =>
      let (checked, bench) := checkAll bench rest
      (⟨(directive, command) :: checked.pairs, checked.failure⟩, bench)

/-! ## Executing commands -/

namespace Command

def logger : String := "quotewise.directives.executor"

/-- The diagnostic of an addition whose article the catalog does not have. -/
def lookupMiss (sku : String) (amount : Amount) : Diagnostic :=
  ⟨.lookupMiss, DirectiveKind.addToQuote.name, .text sku, [("quantity", amount.toValue)]⟩

/-- What became of one command. -/
inductive Fate where
  | executed
  | passedOver
  | failed (fault : Fault)

/-- The fate of a command whose operation led to a change. -/
def fateOf (change : Change σ) : Fate :=
  match change.failure with
  | none => .executed
  | some fault => .failed fault

/-- The record of a request that is passed over; there is none when it cannot be shown. -/
def unsupportedRecord (request : Value) : List LogRecord :=
  match request.shown with
  | .ok shown => [.warning logger ("Ignoring unsupported command " ++ shown)]
  | .error _ => []

def run (access : QuoteAccess σ) (catalog : Catalog) (bench : Bench σ) (command : Command) :
    Fate × Bench σ :=
  match command with
  | .add sku amount =>
    match catalog.find? sku with
    | none => (.passedOver, bench.report (lookupMiss sku amount))
    | some item =>
      let change := access.add bench.state item amount
      (fateOf change, bench.after change)
  | .remove sku =>
    let change := access.remove bench.state sku
    (fateOf change, bench.after change)
  | .other request =>
    (.passedOver, { bench with log := bench.log ++ unsupportedRecord request })

/-- Executes commands in order up to the first failure; `before` were executed already. -/
def runAll (access : QuoteAccess σ) (catalog : Catalog) (bench : Bench σ) (before : List Command) :
    List Command → Except Fault (List Command) × Bench σ
  | [] => (.ok before, bench)
  | command :: rest =>
    match command.run access catalog bench with
    | (.executed, bench) => runAll access catalog bench (before ++ [command]) rest
    | (.passedOver, bench) => runAll access catalog bench before rest
    | (.failed fault, bench) => (.error fault, bench)

/-- Executes commands in order up to the first failure and gives those that changed the quote. -/
def execute (access : QuoteAccess σ) (catalog : Catalog) (bench : Bench σ)
    (commands : List Command) : Except Fault (List Command) × Bench σ :=
  match runAll access catalog bench [] commands with
  | (.ok executed, bench) =>
    if executed.isEmpty then (.ok executed, bench)
    else (.ok executed, bench.record (.debug logger s!"Executed {executed.length} quote command(s)"))
  | (.error fault, bench) => (.error fault, bench)

end Command

end QuoteDesk
