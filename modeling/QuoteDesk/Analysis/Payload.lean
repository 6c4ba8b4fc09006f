import QuoteDesk.Analysis.Basic
import QuoteDesk.Analysis.Schema
import QuoteDesk.Catalog
import QuoteDesk.Json.Reader
import QuoteDesk.Log
import QuoteDesk.Text.Lowercase
import QuoteDesk.Text.Utf8

/-!
# Reading an analysis

The model answers a request for an analysis with a JSON object, sometimes between code fences. The
object is checked against a schema and converted: article numbers are trimmed, quantities become
whole numbers and confidences binary numbers.
-/

namespace QuoteDesk

open Number Text

/-- Why a payload is no analysis. -/
inductive PayloadFault where
  /-- There is nothing in it. -/
  | empty
  | malformed (what : Json.Problem)
  | notMapping
  | breaks (breach : Breach)
  /-- A fault that is not about the payload's form. -/
  | other (fault : Fault)

namespace PayloadFault

/-- The reason that is reported for a fault of the payload's form. -/
def reason : PayloadFault → String
  | .empty => "empty payload"
  | .malformed what => "invalid JSON: " ++ what.wording
  | .notMapping => "payload must decode to an object"
  | .breaks breach => breach.line
  | .other fault => fault.message

/-- The fault of the session; a fault that is not about the form stays what it is. -/
def toFault : PayloadFault → Fault
  | .other fault => fault
  | fault => .session
      (.because .analysisPayload SessionFaultKind.analysisPayload.wording
        [("reason", .text fault.reason)])

/-- The kind of the fault behind this one. -/
def cause? : PayloadFault → Option String
  | .malformed _ => some "JSONDecodeError"
  | .breaks _ => some "ValidationError"
  | _ => none

end PayloadFault

namespace Analysis

/-! ## The form of a payload -/

def lineSchema : Schema :=
  .ofObject ["sku", "quantity"]
    [("sku", .ofText true), ("description", .ofText false),
      ("quantity", .ofNumber .integer (some 1) none),
      ("confidence", .ofNumber .number (some 0) (some 1)), ("reasoning", .ofText false)]

def schema : Schema :=
  .ofObject ["bom"]
    [("buildingSpec", .ofObject [] []), ("infrastructure", .ofObject [] []),
      ("bom", .ofObject ["lineItems"]
        [("lineItems", .ofItems lineSchema),
          ("costs", .ofObject [] [("total", .ofTypes [.number, .text, .null])])])]

def fence : List Char := ['\x60', '\x60', '\x60']

/-- The name of the language that may follow the opening fence. -/
def fenceName : List Char := ['j', 's', 'o', 'n']

/-- What a trimmed text holds between code fences; a text without both fences holds itself. -/
def unfenced (chars : List Char) : List Char :=
  if fence.isPrefixOf chars then
    let behind := chars.drop fence.length
    let body :=
      if fenceName.isPrefixOf (behind.map foldedLetter) then behind.drop fenceName.length else behind
    if fence.isSuffixOf body then trim (body.take (body.length - fence.length)) else chars
  else chars

def readText (chars : List Char) : Except PayloadFault Entries :=
  let trimmed := trim chars
  if trimmed.isEmpty then .error .empty
  else
    match Json.read (String.ofList (unfenced trimmed)) with
    | .ok (.dict entries) => .ok entries
    | .ok _ => .error .notMapping
    | .error (.malformed what _ _ _) => .error (.malformed what)
    | .error fault => .error (.other (.json fault))

/-- The mapping in a payload, which is a mapping, a text or bytes. -/
def mappingOf : Value → Except PayloadFault Entries
  | .dict entries => .ok entries
  | .text s => readText s.toList
  | .bytes data => readText (Utf8.decodeLossy data)
  | _ => .error .empty

def checkForm (validator : Validator) (entries : Entries) : Except PayloadFault Unit :=
  match validator.breach? schema (.dict entries) with
  | .error fault => .error (.other fault)
  | .ok (some breach) => .error (.breaks breach)
  | .ok none => .ok ()

/-! ## Converting -/

/-- The first of two values that counts as present, else the second. -/
def orElse (first second : Value) : Value :=
  if first.isTruthy then first else second

/-- The whole number that a checked quantity stands for. -/
def quantityOf (value : Value) : Value :=
  match value with
  | .float x => (x.truncate?.map Value.int).getD value
  | _ => value

def displayed (value : Value) : Except Fault Value := do
  return .text (← value.display.mapError .number)

def convertLine (entry : Value) : Except Fault BomLine := do
  let sku ← (entry.field "sku" .null).display.mapError .number
  let description ← displayed (orElse (entry.field "description" .null) (entry.field "sku" .null))
  let confidence ← (entry.field "confidence" (.float (.zero false))).toBinary64
  let reasoning ← displayed (orElse (entry.field "reasoning" .null) (.text ""))
  BomLine.build (.text (trimText sku)) description (quantityOf (entry.field "quantity" .null))
    (.float confidence) reasoning

def logger : String := "quotewise.ai.assistant"

/-- The estimated cost, and a record when one is stated that is no number. -/
def convertTotal (total : Value) : Value × List LogRecord :=
  match toDecimal total with
  | some d => (.decimal d, [])
  | none =>
    match total with
    | .null => (.null, [])
    | .text "" => (.null, [])
    | stated =>
      (.null, match stated.shown with
        | .ok shown => [.debug logger ("Ignoring non-numeric BOM total " ++ shown)]
        | .error _ => [])

/-- A part of a checked mapping, or the empty mapping where it counts as absent. -/
def partOf (entries : Entries) (name : String) : Value :=
  orElse ((entries.valueOf? name).getD .null) (.dict [])

def itemsOf : Value → List Value
  | .list items => items
  | _ => []

def convert (entries : Entries) : Except Fault (Analysis × List LogRecord) := do
  let bom := partOf entries "bom"
  let lines ← (itemsOf (bom.field "lineItems" (.list []))).mapM convertLine
  let (total, log) := convertTotal ((orElse (bom.field "costs" .null) (.dict [])).field "total" .null)
  return (⟨partOf entries "buildingSpec", partOf entries "infrastructure", ⟨lines, total⟩⟩, log)

/-- Reads an analysis whose form is checked by a validator. -/
def readWith (validator : Validator) (payload : Value) :
    Except PayloadFault (Analysis × List LogRecord) := do
  let entries ← mappingOf payload
  checkForm validator entries
  (convert entries).mapError .other

def read (payload : Value) : Except PayloadFault (Analysis × List LogRecord) :=
  readWith .draft7 payload

end Analysis

end QuoteDesk
