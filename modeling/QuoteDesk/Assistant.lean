import QuoteDesk.Analysis.Payload
import QuoteDesk.Assistant.Client
import QuoteDesk.Assistant.Prompt

/-!
# The assistant

The assistant answers chat messages and analyses descriptions of buildings. It writes the prompt,
leaves the exchange with the model to a responder and reads the answer. A failure on the way to the
model becomes one fault of the session, whatever went wrong there.
-/

namespace QuoteDesk

open Number

/-- Who completes messages to a text; `κ` is the state behind it. -/
structure Responder (κ : Type) where
  complete : κ → List Value → Client.RequestOptions → Exchange κ String

/-- The responder that asks the model over a transport. -/
def Client.responder (transport : Transport τ) (settings : ClientSettings) : Responder τ where
  complete state messages options := Client.complete transport settings options (.list messages) state

/-- An exchange that ends before the model is asked. -/
def Exchange.refused (fault : Fault) (state : τ) : Exchange τ α :=
  ⟨.error fault.alone, [], [], state⟩

/-- An assistant: its responder and how freely and how long it answers in a chat. -/
structure Assistant (κ : Type) where
  responder : Responder κ
  temperature : Value
  maxTokens : Value

namespace Assistant

/-- How freely the model answers in a chat, unless stated otherwise. -/
def chatTemperature : Value := .float (Binary64.ofDecimal false 7 (-1))

/-- How freely the model answers a request for an analysis. -/
def analysisTemperature : Value := .float (Binary64.ofDecimal false 2 (-1))

/-- A failure on the way to the model as a fault of the session; any other failure as it is. -/
def blame (message : String) (failure : Failure) : Failure :=
  if failure.fault.isPassing then
    ⟨.session (.because .collaborator message [("cause", .text failure.fault.kind)]),
      some failure.fault.kind⟩
  else failure

def chat (assistant : Assistant κ) (message inventory quoteLines history : Value) (state : κ) :
    Exchange κ String :=
  match Prompt.chatMessages message inventory quoteLines history with
  | .error fault => .refused fault state
  | .ok messages =>
    let exchange := assistant.responder.complete state messages
      ⟨assistant.temperature, assistant.maxTokens, false, []⟩
    { exchange with outcome := exchange.outcome.mapError (blame "Chat completion failed") }

/-- The analysis that the text of an answer states. -/
def readAnswer (answer : String) : Except Failure (Analysis × List LogRecord) :=
  (Analysis.read (.text answer)).mapError fun fault => ⟨fault.toFault, fault.cause?⟩

def analyze (assistant : Assistant κ) (description inventory : Value) (state : κ) :
    Exchange κ Analysis :=
  match Prompt.analysisMessages description inventory with
  | .error fault => .refused fault state
  | .ok messages =>
    let exchange := assistant.responder.complete state messages
      ⟨analysisTemperature, .int Prompt.analysisTokens, true, []⟩
    match exchange.outcome with
    | .error failure =>
      { exchange with outcome := .error (blame "Building analysis request failed" failure) }
    | .ok answer =>
      match readAnswer answer with
      | .error failure => { exchange with outcome := .error failure }
      | .ok (analysis, log) =>
        { exchange with outcome := .ok analysis, log := exchange.log ++ log }

end Assistant

end QuoteDesk
