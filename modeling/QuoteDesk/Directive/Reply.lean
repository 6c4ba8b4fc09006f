import QuoteDesk.Directive.Execute
import QuoteDesk.Directive.Strip

/-!
# Processing a reply

The directives of a reply are found, checked and executed, and the reply is cleaned of all of them,
also of those that changed nothing.
-/

namespace QuoteDesk

open Number

/-- What a caller lets a turn use: the items of the catalog, the operations on the quote and the
lines that a prompt shows. -/
structure TurnContext (σ : Type) where
  inventory : Value
  access : QuoteAccess σ
  quoteLines : Value

/-- The commands that changed the quote and the reply without directives. -/
structure Processed where
  executed : List Command
  cleaned : String

namespace Reply

def logger : String := "quotewise.directives.engine"

/-- The items of an inventory under their ids. -/
def catalogOf (inventory : Value) : Except Fault Catalog := do
  (Catalog.ofItems (← inventory.members)).mapError .number

def cleanedOf (chars : List Char) (directives : List Directive) : String :=
  String.ofList (clean (strip chars (directives.map Directive.span)))

def processText (context : TurnContext σ) (bench : Bench σ) (text : String) :
    Except Fault Processed × Bench σ :=
  let chars := text.toList
  let directives := Directive.scan chars
  let (checked, bench) := checkAll bench directives
  match checked.failure with
  | some fault => (.error fault, bench)
  | none =>
    match catalogOf context.inventory with
    | .error fault => (.error fault, bench)
    | .ok catalog =>
      match Command.execute context.access catalog bench checked.commands with
      | (.error fault, bench) => (.error fault, bench)
      | (.ok executed, bench) =>
        (.ok ⟨executed, cleanedOf chars directives⟩,
          bench.record (.debug logger (s!"Processed reply: {directives.length} directive(s), " ++
            s!"{checked.commands.length} valid, {executed.length} executed")))

/-- Processes a reply; one that is no text, or an empty one, has nothing in it. -/
def process (context : TurnContext σ) (bench : Bench σ) (reply : Value) :
    Except Fault Processed × Bench σ :=
  match reply with
  | .text "" => (.ok ⟨[], ""⟩, bench)
  | .text s => processText context bench s
  | _ => (.ok ⟨[], ""⟩, bench)

end Reply

end QuoteDesk
