import QuoteDesk.Settings.Environment
import QuoteDesk.Vault

/-!
# Stored settings

Settings are stored in a file of JSON. The key of the assistant is stored sealed; a file with an
open key is written anew when it is loaded. What is loaded can be overridden by the command line and
by the environment; overrides are never written to the file.
-/

namespace QuoteDesk

open Number Text

/-! ## Copying -/

namespace Value

mutual

/-- How many calls are open at once while a value is copied: two for each bracket around a part, and
three for the part. -/
def copyDepth : Value → Nat
  | .list items => itemsCopyDepth items + 2
  | .dict entries => entriesCopyDepth entries + 2
  | _ => 3

def itemsCopyDepth : List Value → Nat
  | [] => 0
  | item :: rest => max (copyDepth item) (itemsCopyDepth rest)

-- The name of an entry is copied before its value.
def entriesCopyDepth : List (String × Value) → Nat
  | [] => 0
  | (_, value) :: rest => max (max 3 (copyDepth value)) (entriesCopyDepth rest)

end

end Value

namespace Settings

/-- How many calls may be open at once in a copy. The reader opens one for each bracket, so what it
reads may be nested too deeply for a copy. -/
def copyLimit : Nat := Json.depthLimit + 1

def isCopyable (settings : Settings) : Bool :=
  Setting.all.all fun setting => (settings.value setting).copyDepth ≤ copyLimit

theorem isCopyable_iff {settings : Settings} :
    settings.isCopyable = true ↔ ∀ setting, (settings.value setting).copyDepth ≤ copyLimit := by
  unfold isCopyable
  rw [List.all_eq_true]
  constructor
  · intro all setting
    exact of_decide_eq_true (all setting (Setting.mem_all setting))
  · intro all setting _
    exact decide_eq_true (all setting)

/-- The settings as a mapping of copies. A value that is nested too deeply fails like brackets that
are. -/
def copied (settings : Settings) : Except Fault Entries :=
  if settings.isCopyable then .ok settings.toEntries else .error (.json .tooDeep)

end Settings

/-! ## The store -/

/-- Where settings are stored: the file, and the vault of the key. -/
structure SettingsStore where
  path : Path
  vault : Vault

namespace SettingsStore

/-- The store at a path; the key of its vault lies beside it. -/
def at? (path : Path) : Except Fault SettingsStore := do
  return ⟨path, ⟨← path.withSuffix ".key"⟩⟩

def sealedName : String := "api_key_ciphertext"

def version : Int := 1

def versionName : String := "version"

def strategyName : String := "secret_backend"

def logger : String := Settings.logger

/-! ## Saving -/

def stored (cipher : Cipher ρ) (store : SettingsStore) (settings : Settings) :
    StorageM ρ Entries := do
  let openEntries := (← Storage.settle settings.copied).without Setting.apiKey.name
  let key := settings.value .apiKey
  let sealed ← if key.isTruthy then do
      pure [(sealedName, Value.text (← store.vault.encrypt cipher key))]
    else pure []
  return openEntries ++ sealed ++
    [(versionName, .int version), (strategyName, .text cipher.strategy)]

def fileText (entries : Entries) : Except Fault String :=
  match Json.write ⟨some 2, true, true⟩ (.dict entries) with
  | .ok text => .ok text
  | .error (.number fault) => .error (.number fault)
  | .error fault => .error (.wrongType fault.message)

def save (cipher : Cipher ρ) (store : SettingsStore) (settings : Settings) : StorageM ρ Unit := do
  let entries ← stored cipher store settings
  let text ← Storage.settle (fileText entries)
  Storage.change fun files => files.makeDirectories store.path.parent
  Storage.replaceFile store.path (Utf8.encode text.toList)
  Storage.note (.debug logger ("Settings saved to " ++ store.path.text))

/-! ## Loading -/

/-- The entries of the file. A file that is missing, no JSON or no mapping has none. -/
def readEntries (store : SettingsStore) : StorageM ρ Entries := do
  if !(← get).files.contains store.path then return []
  let text ← Storage.look fun files => files.readText store.path
  match Json.read text with
  | .ok (.dict entries) => return entries
  | .ok _ =>
    Storage.note (.warning logger s!"Settings file {store.path.text} does not contain an object")
    return []
  | .error (.malformed what line column index) =>
    let fault := Json.Fault.malformed what line column index
    Storage.note (.warning logger
      s!"Settings file {store.path.text} is not valid JSON: {fault.message}")
    return []
  | .error fault => throw (.json fault)

/-- The key that entries hold, and whether it is open. A sealed key that cannot be opened is passed
over, and so is an open key beside a sealed one. -/
def keyOf (cipher : Cipher ρ) (store : SettingsStore) (entries : Entries) :
    StorageM ρ (Value × Bool) := do
  let sealed := (entries.valueOf? sealedName).getD .null
  let plain := (entries.valueOf? Setting.apiKey.name).getD .null
  if sealed.isTruthy then
    try
      pure (.text (← store.vault.decrypt cipher sealed), false)
    catch fault =>
      if !fault.isBadValue then throw fault
      Storage.note (.warning logger s!"Unable to decrypt API key: {fault.message}")
      pure (.text "", false)
  else if plain.isTruthy then
    Storage.note (.info logger "Detected plaintext API key; migrating to encrypted storage.")
    return (plain, true)
  else return (.text "", false)

/-- The names of entries that are no settings, in alphabetical order. -/
def unknownNames (entries : Entries) : List String :=
  let known := [sealedName, Setting.apiKey.name, versionName, strategyName]
  ((entries.map Prod.fst).filter fun name =>
    !known.contains name && (Setting.ofName? name).isNone).mergeSort fun a b => !(b < a)

/-- The settings that entries state; the key is not among them. -/
def statedSettings (entries : Entries) : Settings :=
  Settings.standard.updateAll ((entries.without Setting.apiKey.name).filterMap fun (name, value) =>
    (Setting.ofName? name).map fun setting => (setting, value))

/-- Writes the file anew with a sealed key. Where that cannot be written, it stays. -/
def migrate (cipher : Cipher ρ) (store : SettingsStore) (settings : Settings) : StorageM ρ Unit := do
  try
    save cipher store settings
  catch fault =>
    match fault with
    | .file _ => Storage.note (.warning logger s!"Failed to migrate settings payload: {fault.message}")
    | fault => throw fault

/-- The settings of entries; an open key is sealed in the file. -/
def settingsOf (cipher : Cipher ρ) (store : SettingsStore) (entries : Entries) :
    StorageM ρ Settings := do
  if entries.isEmpty then return Settings.standard
  let (key, isOpen) ← keyOf cipher store entries
  let unknown := unknownNames entries
  if !unknown.isEmpty then
    Storage.note (.warning logger
      ("Ignoring unknown settings keys: [" ++ ", ".intercalate (unknown.map quoted) ++ "]"))
  let stated := statedSettings entries
  let settings := if key.isTruthy then stated.update .apiKey key else stated
  if isOpen then migrate cipher store settings
  return settings

/-- Takes over settings with the records about them. -/
def noted (result : Settings × List LogRecord) : StorageM ρ Settings := do
  for entry in result.2 do
    Storage.note entry
  return result.1

/-- Loads settings: those of the file, overridden by the command line and by the environment. -/
def load (cipher : Cipher ρ) (store : SettingsStore) (environment : Environment) (overrides : Entries) :
    StorageM ρ Settings := do
  let entries ← readEntries store
  let settings ← settingsOf cipher store entries
  let settings ← noted (settings.override "CLI" (Settings.namedOverrides overrides))
  noted (settings.overrideByEnvironment environment)

/-! ## Loading without fail -/

/-- Whether a fault of loading is answered with the standard settings. -/
def isForgiven : Fault → Bool
  | .file _ => true
  | .wrongType _ => true
  | fault => fault.isBadValue

def programLogger : String := "quotewise.app"

/-- Loads settings. Where the file cannot be used, the standard settings are taken and every
override is dropped. -/
def loadOrStandard (cipher : Cipher ρ) (store : SettingsStore) (environment : Environment)
    (overrides : Entries) : StorageM ρ Settings := do
  try
    load cipher store environment overrides
  catch fault =>
    if !isForgiven fault then throw fault
    Storage.note (.warning programLogger
      s!"Failed to load settings from {store.path.text}: {fault.message}")
    pure Settings.standard

end SettingsStore

end QuoteDesk
