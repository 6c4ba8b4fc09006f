import QuoteDesk.Assistant
import QuoteDesk.Catalog.File
import QuoteDesk.CommandLine.Arguments
import QuoteDesk.Console
import QuoteDesk.Host
import QuoteDesk.Settings.Report

/-!
# The program

A run of the program reads its arguments, its settings and its catalog, and then sits down at the
console: it reads lines until there are no more or the user leaves. Settings stated on the command
line and in the environment hold for one run. Some runs end before the console starts: those that
only explain or show something, and those whose arguments or catalog cannot be used.
-/

namespace QuoteDesk

/-- What a run starts the console with. -/
structure Opening where
  client : ClientSettings
  console : Console
  temperature : Value
  maxTokens : Value

namespace Opening

def assistant (opening : Opening) (responder : Responder κ) : Assistant κ :=
  ⟨responder, opening.temperature, opening.maxTokens⟩

end Opening

namespace Program

def debugVariable : String := "QUOTEWISE_DEBUG"

def settingsVariable : String := "QUOTEWISE_SETTINGS_PATH"

/-- The variables that a run looks at. -/
def environmentNames : List String :=
  [debugVariable, settingsVariable, LogOptions.directoryVariable] ++
    Setting.environmentNames.map Prod.fst

/-- The settings file of a program for which none is stated. -/
def standardSettingsPath (home : Path) : Path :=
  (home.child ".quotewise").child "settings.json"

/-- The stated text, unless it is absent or empty. -/
def unlessEmpty (stated : Option String) : Option String :=
  stated.filter fun s => !s.isEmpty

/-- The settings file: the one of the arguments, of the environment, or the standard one. -/
def settingsPath (home : Path) (environment : Environment) (stated : Option String) :
    Except Fault Path :=
  match unlessEmpty (unlessEmpty stated <|> environment.lookup settingsVariable) with
  | some source => (Path.ofText source).expandHome home
  | none => .ok (standardSettingsPath home)

def settingsStore (home : Path) (environment : Environment) (stated : Option String) :
    Except Fault SettingsStore := do
  SettingsStore.at? (← settingsPath home environment stated)

/-- The overrides of the arguments; those that cannot be read end the run. -/
def readOverrides (entries : List String) : HostM ρ Override.Overrides := do
  match Override.readAll entries with
  | .ok overrides => return overrides
  | .error fault =>
    if fault.isBadValue then Host.refuse s!"Invalid --set override: {fault.message}\n"
    else throw (.fails fault)

def loadSettings (cipher : Cipher ρ) (store : SettingsStore) (overrides : Override.Overrides) :
    HostM ρ Settings := do
  let named := overrides.map fun entry => (entry.1.name, entry.2)
  Host.settle (← Host.work (store.loadOrStandard cipher (← get).environment named))

/-! ## The catalog -/

/-- The catalog file that arguments or settings state, if they state one. -/
def statedCatalog (stated : Option String) (settings : Settings) : Value :=
  match unlessEmpty stated with
  | some source => .text source
  | none => settings.value .inventoryPath

/-- Whether a fault of loading a catalog is reported in one line. -/
def isReported : Fault → Bool
  | .file _ => true
  | fault => fault.isBadValue

def loadCatalogFile (source : String) (path : Path) : HostM ρ (List Value) := do
  match Catalog.load (← get).files path with
  | .ok items => return items
  | .error fault =>
    if isReported fault then
      Host.refuse s!"Unable to load inventory from {source}: {fault.message}\n"
    else throw (.fails fault)

/-- The items of the catalog that is stated; without one there are none. -/
def loadCatalog (stated : Value) : HostM ρ (List Value) := do
  if !stated.isTruthy then return []
  let path ← Host.settle (LogOptions.pathOf stated)
  let source ← Host.settle (stated.display.mapError .number)
  loadCatalogFile source (← Host.settle (path.expandHome (← get).home))

/-! ## The start -/

def limits (settings : Settings) : SessionLimits :=
  ⟨settings.value .maxInputChars, settings.value .turnTimeout⟩

def opening (settings : Settings) (debug : Bool) (items : List Value) : Opening where
  client := settings.clientSettings debug
  console := .start (limits settings) items
  temperature := settings.value .temperature
  maxTokens := settings.value .maxTokens

/-- The request that arguments make. Arguments that are refused end the run, and so does a request
for help. -/
def readRequest (arguments : List String) : HostM ρ CommandLine.Request :=
  match CommandLine.read arguments with
  | .refused fault => Host.refuse (CommandLine.refusal fault)
  | .help => Host.conclude CommandLine.helpText
  | .run request => return request

/-- Whether a run makes detailed records. -/
def isDetailed (environment : Environment) : Bool :=
  environment.flag debugVariable false

/-- The settings that a request is run with. A request to show them ends the run. -/
def readSettings (cipher : Cipher ρ) (request : CommandLine.Request) : HostM ρ Settings := do
  let host ← get
  let _ ← Host.configureLogging none (isDetailed host.environment)
  let store ← Host.settle (settingsStore host.home host.environment request.settingsPath)
  let overrides ← readOverrides request.overrides
  let settings ← loadSettings cipher store overrides
  if request.dumpSettings then
    let names := overrides.map fun entry => entry.1.name
    Host.conclude (← Host.settle (settings.report store cipher.strategy names host.environment))
  return settings

def prepare (request : CommandLine.Request) (settings : Settings) : HostM ρ Opening := do
  let debug := isDetailed (← get).environment
  let _ ← Host.configureLogging (some settings) debug
  let items ← loadCatalog (statedCatalog request.inventory settings)
  modify fun host => host.emit [.info Host.logger s!"Loaded {items.length} inventory item(s)"]
  return opening settings debug items

def start (cipher : Cipher ρ) (arguments : List String) : HostM ρ Opening := do
  let request ← readRequest arguments
  prepare request (← readSettings cipher request)

/-! ## The files of a run -/

/-- The files that logging may touch. -/
def logFiles (host : Host ρ) (options : Except Fault LogOptions) : List Path :=
  match options.bind fun options => options.resolve host.home host.environment with
  | .ok ⟨_, some directory, _, _, backups⟩ =>
    let path := directory.child LogSystem.fileName
    let ages := List.range (backups.asInt?.getD 0).toNat
    path :: ages.map fun age => LogHandler.olderPath path (age + 1)
  | _ => []

/-- The file of the key under which the settings seal their secret. -/
def keyFile? (host : Host ρ) (request : CommandLine.Request) : Option Path :=
  match settingsStore host.home host.environment request.settingsPath with
  | .ok store => some store.vault.keyPath
  | .error _ => none

/-- The files that reading the settings of a request may touch. -/
def settingsFiles (host : Host ρ) (request : CommandLine.Request) : List Path :=
  let stored :=
    match settingsStore host.home host.environment request.settingsPath with
    | .ok store => [store.path, store.vault.keyPath]
    | .error _ => []
  logFiles host (.ok .standard) ++ stored

/-- The files that getting ready for the console may touch. -/
def consoleFiles (host : Host ρ) (request : CommandLine.Request) (settings : Settings) : List Path :=
  let catalog := (LogOptions.pathOf (statedCatalog request.inventory settings)).bind fun path =>
    path.expandHome host.home
  logFiles host (LogOptions.build host.home (some settings) false) ++ catalog.toOption.toList

end Program

/-! ## At the console -/

/-- A run that has sat down at the console: the host, the console and the state of the backend. -/
structure Sitting (ρ κ : Type) where
  host : Host ρ
  console : Console
  state : κ

namespace Sitting

def flush (sitting : Sitting ρ κ) : Sitting ρ κ :=
  let (log, console) := sitting.console.takeLog
  { sitting with host := sitting.host.emit log, console := console }

/-- Sits down and greets the user. -/
def begin (host : Host ρ) (console : Console) (state : κ) : Sitting ρ κ :=
  (Sitting.mk (host.say (Console.greeting ++ "\n")) console state).flush

def ask (sitting : Sitting ρ κ) : Sitting ρ κ :=
  { sitting with host := sitting.host.say Console.prompt }

/-- How a line ends the run, if it does. -/
def endingOf? : LineOutcome → Option Ending
  | .continues => none
  | .quits => some (.exits 0)
  | .fails fault => some (.fails fault)

/-- Takes a line; says how the run ends, if the line ends it. -/
def take (backend : Backend κ) (line : String) (sitting : Sitting ρ κ) :
    Option Ending × Sitting ρ κ :=
  let result := sitting.console.handle backend line sitting.state
  let host := result.written.foldl (fun host text => host.say (text ++ "\n")) sitting.host
  (endingOf? result.outcome, (Sitting.mk host result.console result.state).flush)

/-- Asks for lines and takes them, up to the one that ends the run or to the last one. -/
def takeAll (backend : Backend κ) (sitting : Sitting ρ κ) : List String → Ending × Sitting ρ κ
  | [] => (.exits 0, sitting.ask)
  | line :: rest =>
    match sitting.ask.take backend line with
    | (some ending, sitting) => (ending, sitting)
    | (none, sitting) => sitting.takeAll backend rest

end Sitting

end QuoteDesk
