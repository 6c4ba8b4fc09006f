import QuoteDesk.Assistant.Client
import QuoteDesk.Settings.Store

/-!
# Using and showing settings

The settings of a run can be shown as JSON, with the key of the assistant hidden but for its ends.
Some of them say how the model is reached and within which bounds a session runs.
-/

namespace QuoteDesk

open Number Text

/-- A secret that may be shown: all but two characters at each end are hidden, and all of a short
one. -/
def redacted (secret : String) : String :=
  let chars := trim secret.toList
  if chars.length ≤ 4 then String.ofList (List.replicate chars.length '*')
  else
    String.ofList (chars.take 2 ++ List.replicate (chars.length - 4) '*' ++
      chars.drop (chars.length - 2))

/-- A value as a secret that may be shown; an absent one is empty. -/
def redactedValue (secret : Value) : Except Fault String :=
  if !secret.isTruthy then .ok ""
  else
    match secret with
    | .text s => .ok (redacted s)
    | other => .error (Vault.noText other "strip")

namespace Settings

/-- The settings with the key hidden. -/
def shownEntries (settings : Settings) : Except Fault Entries := do
  let entries ← settings.copied
  let key ← redactedValue (settings.value .apiKey)
  return entries.put Setting.apiKey.name (.text key)

/-- The settings of a run as JSON: the values, where they are stored, and what overrides them. -/
def report (settings : Settings) (store : SettingsStore) (strategy : String)
    (overridden : List String) (environment : Environment) : Except Fault String := do
  let texts (names : List String) : Value := .list (names.map Value.text)
  let value := Value.dict
    [("settings", .dict (← settings.shownEntries)),
      ("meta", .dict
        [("path", .text store.path.text), ("secret_backend", .text strategy),
          ("cli_overrides", texts (overridden.mergeSort fun a b => !(b < a))),
          ("environment_variables", texts environment.ownNames)])]
  match Json.write .indented value with
  | .ok text => return text ++ "\n"
  | .error (.number fault) => throw (.number fault)
  | .error fault => throw (.wrongType fault.message)

/-- How the model is reached; requests are recorded in detail if the run or the settings ask for
it. -/
def clientSettings (settings : Settings) (debug : Bool) : ClientSettings where
  baseUrl := settings.value .baseUrl
  apiKey := settings.value .apiKey
  model := settings.value .model
  organization := settings.value .organization
  requestTimeout := settings.value .requestTimeout
  maxRetries := settings.value .maxRetries
  retryMinSeconds := settings.value .retryMinSeconds
  retryMaxSeconds := settings.value .retryMaxSeconds
  defaultHeaders :=
    let headers := settings.value .defaultHeaders
    if headers.isTruthy then headers else .null
  debugLogging := if debug then .bool true else settings.value .debugLogging

end Settings

end QuoteDesk
