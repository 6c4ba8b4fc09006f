import QuoteDesk.Session.Turn

/-!
# Reviewing a bill of materials

A bill of materials that waits for review is put on the quote or dismissed. Lines that break the
rules of commands are reported and left out.
-/

namespace QuoteDesk

open Number

namespace Stage

/-- The diagnostic of a line that breaks a rule. -/
def lineRejection (line : BomLine) (reason : DropReason) (message : String) : Diagnostic :=
  ⟨reason, DirectiveKind.addToQuote.name, line.sku,
    [("message", .text message), ("source", .text "bom")]⟩

/-- The commands of the lines that keep the rules; a line that breaks one is reported, and any other
fault ends the work. `before` are the commands found, last first. -/
def bomCommands (bench : Bench σ) (before : List Command) :
    List BomLine → Except Fault (List Command) × Bench σ
  | [] => (.ok before.reverse, bench)
  | line :: rest =>
    match Command.buildAdd line.sku line.quantity with
    | .ok command => bomCommands bench (command :: before) rest
    | .error (.refusedCommand reason message) =>
      bomCommands (bench.report (lineRejection line reason message)) before rest
    | .error fault => (.error fault, bench)

def executeBom (observer : Observer σ) (context : TurnContext σ) (catalog : Catalog) (bom : Bom)
    (commands : List Command) (stage : Stage σ) : StepOutcome × Stage σ :=
  match Command.execute context.access catalog stage.bench commands with
  | (.error fault, bench) =>
    let message : ChatMessage := ⟨.assistant, Session.apology, [("failed", .bool true)]⟩
    let stage := { stage with bench := bench }.record
      (.error Session.logger s!"Adding BOM to quote failed: {fault.message}")
    (.answered message, (stage.append message).setMode observer .chat)
  | (.ok executed, bench) =>
    let message : ChatMessage :=
      ⟨.assistant, Analysis.confirmation executed.length, [("bom_added", .int executed.length)]⟩
    let stage := { stage with bench := bench }.setMode observer .chat
    let stage := stage.record (.info Session.logger
      s!"Added {executed.length} of {bom.lines.length} BOM line(s) to the quote")
    (.answered message, stage.append message)

/-- Puts the bill of materials that waits for review on the quote and returns to chat. -/
def addBom (observer : Observer σ) (context : TurnContext σ) (stage : Stage σ) :
    StepOutcome × Stage σ :=
  if stage.session.isBusy then (.refused (.session (.plain .turnInProgress)), stage)
  else
    match stage.session.pending with
    | none => (.refused (.session (.plain .noPendingBom)), stage)
    | some bom =>
      match bomCommands stage.bench [] bom.lines with
      | (.error fault, bench) => (.refused fault, { stage with bench := bench })
      | (.ok commands, bench) =>
        let stage := { stage with bench := bench }
        match Reply.catalogOf context.inventory with
        | .error fault => (.refused fault, stage)
        | .ok catalog => stage.executeBom observer context catalog bom commands

/-- Dismisses the bill of materials that waits for review and returns to chat. -/
def dismissBom (observer : Observer σ) (stage : Stage σ) : StepOutcome × Stage σ :=
  if stage.session.isBusy then (.refused (.session (.plain .turnInProgress)), stage)
  else if stage.session.pending.isNone && stage.session.mode = .chat then (.ignored, stage)
  else (.ignored, stage.setMode observer .chat)

end Stage

end QuoteDesk
