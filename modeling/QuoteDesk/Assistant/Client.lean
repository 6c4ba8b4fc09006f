import QuoteDesk.Json.Writer
import QuoteDesk.Log
import QuoteDesk.Number.Decimal
import QuoteDesk.Value.Arithmetic

/-!
# Asking the model

A request goes to the model over a transport. A failure after which asking again may help is
answered by asking again, up to a number of attempts. A policy says how that is done; the one of the
program waits twice as long each time.
-/

namespace QuoteDesk

open Number

/-- How the model is reached. The values come from files and command lines and are not checked
before they are used. -/
structure ClientSettings where
  baseUrl : Value
  apiKey : Value
  model : Value
  organization : Value
  requestTimeout : Value
  maxRetries : Value
  retryMinSeconds : Value
  retryMaxSeconds : Value
  defaultHeaders : Value
  debugLogging : Value

/-- A failure, with the kind of the failure behind it, if there is one. -/
structure Failure where
  fault : Fault
  cause : Option String

/-- A failure with nothing behind it. -/
def Fault.alone (fault : Fault) : Failure := ⟨fault, none⟩

/-- A way to the model: a request is answered with a response or a failure. -/
structure Transport (τ : Type) where
  send : τ → Entries → Except Fault Value × τ

/-- What is left of an exchange with the model: its outcome, the waits between attempts in seconds,
the records and the transport. -/
structure Exchange (τ : Type) (α : Type) where
  outcome : Except Failure α
  waits : List Binary64
  log : List LogRecord
  transport : τ

namespace Client

def logger : String := "quotewise.ai.client"

/-! ## The request -/

/-- What a request asks for beside the answer to its messages. A null leaves its entry out. -/
structure RequestOptions where
  temperature : Value
  maxTokens : Value
  jsonMode : Bool
  extra : Entries

def entryName : Value → Except Fault String
  | .text s => .ok s
  | .list _ => .error (.wrongType "unhashable type: 'list'")
  | .dict _ => .error (.wrongType "unhashable type: 'dict'")
  | .record _ => .error (.wrongType "unhashable type: 'types.SimpleNamespace'")
  | value => value.display.mapError .number

def refusePair (index length : Nat) : Fault :=
  .badValue s!"dictionary update sequence element #{index} has length {length}; 2 is required"

def pairEntry (index : Nat) (pair : Value) : Except Fault (String × Value) := do
  match pair with
  | .list [name, value] => return (← entryName name, value)
  | .list items => throw (refusePair index items.length)
  | .text s =>
    match s.toList with
    | [name, value] => return (name.toString, .text value.toString)
    | chars => throw (refusePair index chars.length)
  | .dict [first, second] => return (first.1, .text second.1)
  | .dict entries => throw (refusePair index entries.length)
  | .bytes [name, value] => return (← entryName (.int name.toNat), .int value.toNat)
  | .bytes data => throw (refusePair index data.length)
  | _ => throw (.wrongType
      s!"cannot convert dictionary update sequence element #{index} to a sequence")

/-- The members of a value that is taken as a list of pairs; an absent value is no list. -/
def pairMembers (value : Value) : Except Fault (List Value) :=
  match value with
  | .null => .error (.wrongType "'NoneType' object is not iterable")
  | .bool _ => .error (.wrongType "'bool' object is not iterable")
  | .int _ => .error (.wrongType "'int' object is not iterable")
  | .float _ => .error (.wrongType "'float' object is not iterable")
  | .decimal _ => .error (.wrongType "'decimal.Decimal' object is not iterable")
  | .record _ => .error (.wrongType "'types.SimpleNamespace' object is not iterable")
  | .list items => .ok items
  | .dict entries => .ok (entries.map fun entry => .text entry.1)
  | .text s => .ok (s.toList.map fun c => .text c.toString)
  | .bytes data => .ok (data.map fun byte => .int byte.toNat)

/-- A message as a mapping; a list of pairs is one too. -/
def messageEntries (message : Value) : Except Fault Entries :=
  match message with
  | .dict entries => .ok entries
  | value => do
    let members ← pairMembers value
    let pairs ← members.zipIdx.mapM fun (pair, index) => pairEntry index pair
    return Entries.putAll [] pairs

/-- Messages as mappings. At least one is needed. -/
def checkMessages (messages : Value) : Except Failure (List Value) := do
  let members ← (pairMembers messages).mapError Fault.alone
  let checked ← members.mapM fun message =>
    match messageEntries message with
    | .ok entries => .ok (.dict entries)
    | .error (.wrongType _) =>
      .error ⟨.wrongType "Messages must be mapping-like objects", some "TypeError"⟩
    | .error fault => .error fault.alone
  if checked.isEmpty then
    throw (Fault.badValue "At least one message is required to start a chat").alone
  return checked

/-- An entry that is left out where its value is null. -/
def unlessNull (name : String) : Value → Entries
  | .null => []
  | value => [(name, value)]

def request (settings : ClientSettings) (messages : List Value) (options : RequestOptions) : Entries :=
  let asked := [("model", settings.model), ("messages", Value.list messages)] ++
    unlessNull "temperature" options.temperature ++ unlessNull "max_tokens" options.maxTokens ++
    (if options.jsonMode then [("response_format", .dict [("type", .text "json_object")])] else [])
  Entries.putAll asked options.extra

/-- The records about a request, in detail if the settings ask for it. -/
def requestRecords (settings : ClientSettings) (request : Entries) (count : Nat) : List LogRecord :=
  let started := match settings.model.display with
    | .ok model =>
      [.debug logger s!"Starting chat completion via {model} with {count} message(s)"]
    | .error _ => []
  let detailed :=
    if settings.debugLogging.isTruthy then
      match Json.write ⟨some 2, false, false⟩ (.dict request) with
      | .ok text => [.debug logger ("AI prompt payload:\n" ++ text)]
      | .error _ =>
        match (Value.dict request).shown with
        | .ok shown => [.debug logger ("AI prompt payload (unserializable): " ++ shown)]
        | .error _ => []
    else []
  started ++ detailed

/-! ## Attempts -/

/-- How a request is sent again. -/
structure RetryPolicy where
  /-- The wait after an attempt, counted from one, between a least and a greatest wait. -/
  waitAfter (least : Value) (greatest : Binary64) (attempt : Nat) : Except Fault Binary64
  /-- Sends a request until there is no sense in sending it again, or no attempt is left.
  `remaining` attempts may follow this one, which is number `attempt`. -/
  ask {τ : Type} (transport : Transport τ) (wait : Nat → Except Fault Binary64) (request : Entries)
    (remaining attempt : Nat) (state : τ) : Except Fault Value × List Binary64 × τ

/-- How many attempts are made when all of them fail: at least one. An infinite number is taken as
2 ^ 64. -/
def attemptLimit (maxRetries : Value) : Except Fault Nat := do
  match ← (Value.int 1).maximum maxRetries with
  | .int n => return n.toNat
  | .float x => return (x.ceiling?.getD (Nat.pow 2 64)).toNat
  | .decimal d => return ((d.toRat?.map Rat.ceil).getD (Nat.pow 2 64)).toNat
  | _ => return 1

/-- A wait grown by a power of two. -/
def grown (wait : Value) (power : Nat) : Except Fault Value :=
  match wait with
  | .int n => .ok (.int (n * Nat.pow 2 power))
  | .bool b => .ok (.int (b.toNat * Nat.pow 2 power))
  | .float x => .ok (.float (x.scaleUp power))
  | .decimal d => ((d.mul (.ofInt (Nat.pow 2 power))).map Value.decimal).mapError .arithmetic
  | other => .error (.wrongType
      s!"'<' not supported between instances of 'float' and '{other.typeName}'")

/-- The wait after an attempt, counted from one: it doubles each time, up to a greatest wait. -/
def waitAfter (least : Value) (greatest : Binary64) (attempt : Nat) : Except Fault Binary64 := do
  let wanted ← grown least (attempt - 1)
  let bounded ← wanted.minimum (.float greatest)
  (← (Value.int 0).maximum bounded).toBinary64

/-- Sends a request until it is answered, a failure comes after which asking again does not help, or
no attempt is left. -/
def ask (transport : Transport τ) (wait : Nat → Except Fault Binary64) (request : Entries)
    (remaining attempt : Nat) (state : τ) : Except Fault Value × List Binary64 × τ :=
  match transport.send state request with
  | (.ok response, state) => (.ok response, [], state)
  | (.error fault, state) =>
    if fault.isPassing then
      match wait attempt with
      | .error other => (.error other, [], state)
      | .ok pause =>
        match remaining with
        | 0 => (.error fault, [], state)
        | remaining + 1 =>
          let (outcome, pauses, state) := ask transport wait request remaining (attempt + 1) state
          (outcome, pause :: pauses, state)
    else (.error fault, [], state)

/-- The policy of the program. -/
def RetryPolicy.doubling : RetryPolicy where
  waitAfter := Client.waitAfter
  ask := Client.ask

/-! ## The answer -/

def firstChoice : Value → Except Fault Value
  | .list (first :: _) => .ok first
  | .text s => .ok (.text (String.ofList (s.toList.take 1)))
  | .bytes (first :: _) => .ok (.int first.toNat)
  | .dict _ => .error (.keyMissing "0")
  | other => .error (.wrongType s!"'{other.typeName}' object is not subscriptable")

/-- An attribute of a record; a value of another type has none. -/
def attributeOf (value : Value) (name : String) : Value :=
  match value with
  | .record _ => value.field name .null
  | _ => .null

/-- The text of a response: that of its first choice. -/
def responseText (response : Value) : Except Fault String := do
  let choices := attributeOf response "choices"
  if !choices.isTruthy then throw (.badValue "Chat completion returned no choices")
  let content := attributeOf (attributeOf (← firstChoice choices) "message") "content"
  if content.isTruthy then content.display.mapError .number else return ""

/-- Asks the model for an answer to messages. -/
def completeWith (policy : RetryPolicy) (transport : Transport τ) (settings : ClientSettings)
    (options : RequestOptions) (messages : Value) (state : τ) : Exchange τ String :=
  match checkMessages messages with
  | .error failure => ⟨.error failure, [], [], state⟩
  | .ok checked =>
    let request := request settings checked options
    let log := requestRecords settings request checked.length
    let bounds : Except Fault (Nat × Binary64) := do
      return (← attemptLimit settings.maxRetries, ← settings.retryMaxSeconds.toBinary64)
    match bounds with
    | .error fault => ⟨.error fault.alone, [], log, state⟩
    | .ok (limit, greatest) =>
      let wait := policy.waitAfter settings.retryMinSeconds greatest
      let (outcome, waits, state) := policy.ask transport wait request (limit - 1) 1 state
      ⟨((outcome.bind responseText).mapError Fault.alone), waits, log, state⟩

/-- Asks the model for an answer to messages as the program does. -/
def complete (transport : Transport τ) (settings : ClientSettings) (options : RequestOptions)
    (messages : Value) (state : τ) : Exchange τ String :=
  completeWith .doubling transport settings options messages state

/-! ## The connection -/

/-- What a connection to the model is opened with. -/
structure Connection where
  apiKey : Value
  baseUrl : String
  organization : Value
  timeout : Value
  maxRetries : Int
  headers : Entries

/-- An address whose path, if it has one, ends with a slash. -/
def withFinalSlash (url : String) : String :=
  let chars := url.toList
  let behindScheme := (chars.dropWhile (· ≠ ':')).drop 3
  if !behindScheme.contains '/' || chars.getLast? = some '/' then url else url ++ "/"

/-- The connection of some settings. Without a key a placeholder is sent; waiting and asking again
is left to the client. -/
def connection (settings : ClientSettings) : Connection :=
  { apiKey := if settings.apiKey.isTruthy then settings.apiKey else .text "not-needed"
    baseUrl := match settings.baseUrl with
      | .text url => withFinalSlash url
      | _ => ""
    organization := settings.organization
    timeout := settings.requestTimeout
    maxRetries := 0
    headers := match settings.defaultHeaders with
      | .dict entries => entries
      | _ => [] }

end Client

end QuoteDesk
