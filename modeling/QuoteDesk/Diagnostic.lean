import QuoteDesk.Directive.Reason
import QuoteDesk.Log
import QuoteDesk.Value

/-!
# Diagnostics

A diagnostic says why a directive changed nothing. It goes to a sink: a ring that keeps the last
ones, a log, one from outside, or nowhere. A sink that fails never disturbs the work that reports to
it.
-/

namespace QuoteDesk

open Number Text

/-- Why one directive changed nothing. -/
structure Diagnostic where
  reason : DropReason
  kind : String
  sku : Value
  details : Entries

namespace Diagnostic

/-- A diagnostic as a mapping; empty details are left out. -/
def toEntries (diagnostic : Diagnostic) : Entries :=
  [("reason", .text diagnostic.reason.code), ("kind", .text diagnostic.kind), ("sku", diagnostic.sku)] ++
    (if diagnostic.details.isEmpty then [] else [("details", .dict diagnostic.details)])

end Diagnostic

/-! ## The ring -/

/-- The last diagnostics, the oldest one first, at most `capacity` of them. -/
structure DiagnosticRing where
  capacity : Nat
  kept : List Diagnostic

namespace DiagnosticRing

def leastCapacity : Int := 10

/-- An empty ring; a smaller capacity than the least one is raised to it. -/
def empty (capacity : Int) : DiagnosticRing :=
  ⟨(max leastCapacity capacity).toNat, []⟩

/-- Puts a diagnostic in; the oldest one gives way when the ring is full. -/
def record (ring : DiagnosticRing) (diagnostic : Diagnostic) : DiagnosticRing :=
  let all := ring.kept ++ [diagnostic]
  { ring with kept := all.drop (all.length - ring.capacity) }

def clear (ring : DiagnosticRing) : DiagnosticRing :=
  { ring with kept := [] }

/-- The last diagnostics up to a limit. A limit of zero gives all; a negative one leaves out as many
of the oldest. -/
def tail (ring : DiagnosticRing) (limit : Option Int) : List Diagnostic :=
  match limit with
  | none => ring.kept
  | some n =>
    if (ring.kept.length : Int) ≤ n || n = 0 then ring.kept
    else if n < 0 then ring.kept.drop n.natAbs
    else ring.kept.drop (ring.kept.length - n.toNat)

def reasons (ring : DiagnosticRing) : List DropReason :=
  ring.kept.map Diagnostic.reason

end DiagnosticRing

/-! ## Sinks -/

/-- A sink from outside, known by a label. `sent` is what was sent to it, in order, also what it
failed on; it fails or not depending on all of that, the diagnostic at hand being the last. -/
structure OutsideSink where
  label : String
  sent : List Diagnostic
  fails : List Diagnostic → Bool

inductive DiagnosticSink where
  | nowhere
  | ring (held : DiagnosticRing)
  /-- A log at one severity. -/
  | log (level : Int)
  | outside (held : OutsideSink)

namespace DiagnosticSink

/-- A sink from outside that fails on everything. -/
def failing (label : String) : DiagnosticSink :=
  .outside ⟨label, [], fun _ => true⟩

def logger : String := "quotewise.directives.diagnostics"

/-- A record whose message may be impossible to write; then there is none. -/
def recordOf (level : Int) (message : Except IntegerFault String) : List LogRecord :=
  match message with
  | .ok message => [⟨logger, level, message⟩]
  | .error _ => []

def report (sink : DiagnosticSink) (diagnostic : Diagnostic) : DiagnosticSink × List LogRecord :=
  let announced := recordOf debugLevel do
    return "Directive diagnostic: " ++ (← (Value.dict diagnostic.toEntries).shown)
  match sink with
  | .nowhere => (.nowhere, announced)
  | .ring held => (.ring (held.record diagnostic), announced)
  | .log level =>
    (.log level, announced ++ recordOf level do
      return "Dropped " ++ diagnostic.kind ++ " directive for SKU " ++ (← diagnostic.sku.shown) ++
        " (" ++ diagnostic.reason.code ++ ")")
  | .outside held =>
    let sent := held.sent ++ [diagnostic]
    (.outside { held with sent := sent },
      if held.fails sent then
        announced ++ [.debug logger ("Diagnostic sink " ++ held.label ++ " failed")]
      else announced)

def kept : DiagnosticSink → List Diagnostic
  | .ring held => held.kept
  | _ => []

end DiagnosticSink

end QuoteDesk
