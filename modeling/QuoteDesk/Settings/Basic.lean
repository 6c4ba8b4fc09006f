import QuoteDesk.Value

/-!
# Settings

The program has nineteen settings. Each one has a name, a kind of value and a standard value. Values
come from files, command lines and environments, so they may have any type; what uses a setting
deals with that.
-/

namespace QuoteDesk

open Number

/-- The kind of value that a setting is meant to have. -/
inductive SettingKind where
  | text
  | flag
  | whole
  | real
  | mapping
  /-- No value at all. -/
  | nothing
  /-- Any other kind; its texts are taken as they are. -/
  | other
deriving DecidableEq, Repr

inductive Setting where
  | baseUrl
  | apiKey
  | model
  | organization
  | temperature
  | requestTimeout
  | maxRetries
  | retryMinSeconds
  | retryMaxSeconds
  | turnTimeout
  | maxInputChars
  | maxTokens
  | debugLogging
  | logDir
  | logToConsole
  | logMaxBytes
  | logBackupCount
  | defaultHeaders
  | inventoryPath
deriving DecidableEq, Repr

namespace Setting

def all : List Setting :=
  [.baseUrl, .apiKey, .model, .organization, .temperature, .requestTimeout, .maxRetries,
    .retryMinSeconds, .retryMaxSeconds, .turnTimeout, .maxInputChars, .maxTokens, .debugLogging,
    .logDir, .logToConsole, .logMaxBytes, .logBackupCount, .defaultHeaders, .inventoryPath]

theorem mem_all (setting : Setting) : setting ∈ all := by
  cases setting <;> decide

def name : Setting → String
  | .baseUrl => "base_url"
  | .apiKey => "api_key"
  | .model => "model"
  | .organization => "organization"
  | .temperature => "temperature"
  | .requestTimeout => "request_timeout"
  | .maxRetries => "max_retries"
  | .retryMinSeconds => "retry_min_seconds"
  | .retryMaxSeconds => "retry_max_seconds"
  | .turnTimeout => "turn_timeout"
  | .maxInputChars => "max_input_chars"
  | .maxTokens => "max_tokens"
  | .debugLogging => "debug_logging"
  | .logDir => "log_dir"
  | .logToConsole => "log_to_console"
  | .logMaxBytes => "log_max_bytes"
  | .logBackupCount => "log_backup_count"
  | .defaultHeaders => "default_headers"
  | .inventoryPath => "inventory_path"

/-- The kind of a setting's value; a text may also be null where no text is the standard. -/
def kind : Setting → SettingKind
  | .temperature => .real
  | .requestTimeout => .real
  | .maxRetries => .whole
  | .retryMinSeconds => .real
  | .retryMaxSeconds => .real
  | .turnTimeout => .real
  | .maxInputChars => .whole
  | .maxTokens => .whole
  | .debugLogging => .flag
  | .logToConsole => .flag
  | .logMaxBytes => .whole
  | .logBackupCount => .whole
  | .defaultHeaders => .mapping
  | _ => .text

/-- The binary number nearest to a number of tenths. -/
def tenths (n : Nat) : Value :=
  .float (Binary64.ofDecimal false n (-1))

/-- The value of a setting that nobody has set. -/
def standard : Setting → Value
  | .baseUrl => .text "https://api.openai.com/v1"
  | .apiKey => .text ""
  | .model => .text "gpt-4o-mini"
  | .organization => .null
  | .temperature => tenths 7
  | .requestTimeout => tenths 600
  | .maxRetries => .int 3
  | .retryMinSeconds => tenths 5
  | .retryMaxSeconds => tenths 60
  | .turnTimeout => tenths 900
  | .maxInputChars => .int 500
  | .maxTokens => .int 2000
  | .debugLogging => .bool false
  | .logDir => .null
  | .logToConsole => .bool false
  | .logMaxBytes => .int 1000000
  | .logBackupCount => .int 3
  | .defaultHeaders => .dict []
  | .inventoryPath => .null

def ofName? (name : String) : Option Setting :=
  all.find? fun setting => setting.name = name

theorem ofName?_name (setting : Setting) : ofName? setting.name = some setting := by
  cases setting <;> decide +kernel

end Setting

/-- The values of all settings. -/
structure Settings where
  value : Setting → Value

namespace Settings

def standard : Settings := ⟨Setting.standard⟩

def update (settings : Settings) (setting : Setting) (value : Value) : Settings :=
  ⟨fun other => if other = setting then value else settings.value other⟩

@[simp] theorem value_update (settings : Settings) (setting other : Setting) (value : Value) :
    (settings.update setting value).value other =
      if other = setting then value else settings.value other := rfl

/-- Gives several settings other values; of two values of one setting the last one stands. -/
def updateAll (settings : Settings) (values : List (Setting × Value)) : Settings :=
  values.foldl (fun settings entry => settings.update entry.1 entry.2) settings

def toEntries (settings : Settings) : Entries :=
  Setting.all.map fun setting => (setting.name, settings.value setting)

end Settings

end QuoteDesk
