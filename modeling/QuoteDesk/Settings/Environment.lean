import QuoteDesk.Log
import QuoteDesk.Settings.Override

/-!
# Environments

Variables of the environment override settings. A variable that cannot be read as its setting's kind
is passed over with a warning.
-/

namespace QuoteDesk

open Number Text

/-- Variables with their texts. -/
abbrev Environment := List (String × String)

namespace Environment

/-- What the names of the program's variables start with. -/
def mark : List Char := ['Q', 'U', 'O', 'T', 'E', 'W', 'I', 'S', 'E', '_']

/-- The names of the program's variables that are set, in alphabetical order. -/
def ownNames (environment : Environment) : List String :=
  ((environment.map Prod.fst).filter fun name => mark.isPrefixOf name.toList).mergeSort
    fun a b => !(b < a)

/-- Whether a variable means yes; one that is not set has a default. -/
def flag (environment : Environment) (name : String) (default : Bool) : Bool :=
  match environment.lookup name with
  | none => default
  | some source => Override.meansYes source

end Environment

namespace Setting

/-- The variables that override settings, in the order in which they are read. -/
def environmentNames : List (String × Setting) :=
  [("QUOTEWISE_API_KEY", .apiKey), ("QUOTEWISE_BASE_URL", .baseUrl), ("QUOTEWISE_MODEL", .model),
    ("QUOTEWISE_ORGANIZATION", .organization), ("QUOTEWISE_INVENTORY_PATH", .inventoryPath),
    ("QUOTEWISE_DEBUG_LOGGING", .debugLogging), ("QUOTEWISE_LOG_CONSOLE", .logToConsole),
    ("QUOTEWISE_MAX_RETRIES", .maxRetries), ("QUOTEWISE_MAX_INPUT_CHARS", .maxInputChars),
    ("QUOTEWISE_MAX_TOKENS", .maxTokens), ("QUOTEWISE_REQUEST_TIMEOUT", .requestTimeout),
    ("QUOTEWISE_TURN_TIMEOUT", .turnTimeout), ("QUOTEWISE_TEMPERATURE", .temperature)]

/-- Reads the text of a variable as a kind of value. Texts are taken as they are, and every text is
a flag. -/
def readVariable (kind : SettingKind) (source : String) : Except Fault Value :=
  match kind with
  | .flag => .ok (.bool (Override.meansYes source))
  | .whole => Override.readWhole source
  | .real => Override.readReal source
  | _ => .ok (.text source)

def numberWord : SettingKind → String
  | .whole => "integer"
  | _ => "float"

end Setting

namespace Settings

def logger : String := "quotewise.services.settings"

def unreadableVariable (name source : String) (kind : SettingKind) : LogRecord :=
  .warning logger
    s!"Environment override {name}={source} is not a valid {Setting.numberWord kind}"

/-- What one variable overrides, if it is set and can be read. -/
def readVariable (environment : Environment) (entry : String × Setting) :
    Option (Setting × Value) × List LogRecord :=
  match environment.lookup entry.1 with
  | none => (none, [])
  | some source =>
    match Setting.readVariable entry.2.kind source with
    | .ok value => (some (entry.2, value), [])
    | .error _ => (none, [unreadableVariable entry.1 source entry.2.kind])

/-- What the environment overrides, and the warnings about variables that cannot be read. -/
def environmentOverrides (environment : Environment) : List (Setting × Value) × List LogRecord :=
  let read := Setting.environmentNames.map (readVariable environment)
  (read.filterMap Prod.fst, read.flatMap Prod.snd)

/-- The record of overrides from a source: the names of the settings, in alphabetical order. -/
def overrideRecord (source : String) (names : List String) : LogRecord :=
  let sorted := names.mergeSort fun a b => !(b < a)
  .debug logger ("Applying " ++ source ++ " settings overrides: [" ++
    ", ".intercalate (sorted.map Text.quoted) ++ "]")

/-- Overrides settings, with a record if there is anything to override. -/
def override (settings : Settings) (source : String) (values : List (Setting × Value)) :
    Settings × List LogRecord :=
  if values.isEmpty then (settings, [])
  else (settings.updateAll values, [overrideRecord source (values.map fun entry => entry.1.name)])

def overrideByEnvironment (settings : Settings) (environment : Environment) :
    Settings × List LogRecord :=
  let (values, warnings) := environmentOverrides environment
  let (settings, log) := settings.override "environment" values
  (settings, warnings ++ log)

/-- The overrides among named values: those of settings that are not null. -/
def namedOverrides (named : Entries) : List (Setting × Value) :=
  named.filterMap fun (name, value) =>
    match Setting.ofName? name, value with
    | _, .null => none
    | some setting, value => some (setting, value)
    | none, _ => none

end Settings

end QuoteDesk
