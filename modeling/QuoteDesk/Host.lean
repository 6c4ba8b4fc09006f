import QuoteDesk.File.Storage
import QuoteDesk.Log.System

/-!
# Hosts

A run of the program takes place on a host, which has files, an environment, a logging system and
two streams of text: one for what the program says and one for its errors. What a run does to its
host stays done, however the run ends.
-/

namespace QuoteDesk

/-- What a run of the program takes place on. -/
structure Host (ρ : Type) where
  home : Path
  environment : Environment
  /-- The time that log lines carry. -/
  clock : String
  files : FileStore
  random : ρ
  logging : LogSystem
  output : String
  errors : String

/-- How a run of the program ends. -/
inductive Ending where
  | exits (status : Nat)
  /-- Something went wrong that the program has no answer to. -/
  | fails (fault : Fault)

/-- Work on a host that may end the run. -/
abbrev HostM (ρ : Type) := ExceptT Ending (StateM (Host ρ))

namespace Host

def fresh (home : Path) (environment : Environment) (clock : String) (files : FileStore) (random : ρ) :
    Host ρ :=
  ⟨home, environment, clock, files, random, .idle, "", ""⟩

/-! ## Streams and records -/

def say (host : Host ρ) (text : String) : Host ρ :=
  { host with output := host.output ++ text }

def complain (host : Host ρ) (text : String) : Host ρ :=
  { host with errors := host.errors ++ text }

def emit (host : Host ρ) (log : List LogRecord) : Host ρ :=
  let written := host.logging.writeAll host.clock ⟨host.files, host.errors⟩ log
  { host with files := written.files, errors := written.console }

/-- Takes back what was said and the errors, once they were shown. -/
def shown (host : Host ρ) : Host ρ :=
  { host with output := "", errors := "" }

/-! ## Work -/

/-- A result as work; a fault ends the run. -/
def settle (result : Except Fault α) : HostM ρ α :=
  match result with
  | .ok value => return value
  | .error fault => throw (.fails fault)

/-- Does work on the storage of the host. Its records are written when it is done. -/
def work (job : StorageM ρ α) : HostM ρ (Except Fault α) := do
  let host ← get
  let (result, storage) := job.run ⟨host.files, host.random, []⟩
  set ({ host with files := storage.files, random := storage.random }.emit storage.log)
  return result

/-- Ends the run with a message to the errors. -/
def refuse (message : String) : HostM ρ α := do
  modify fun host => host.complain message
  throw (.exits 2)

/-- Ends the run with a text. -/
def conclude (text : String) : HostM ρ α := do
  modify fun host => host.say text
  throw (.exits 0)

/-! ## Logging -/

/-- Sets logging up and gives the path of the log file; `force` sets up anew what is in force. -/
def setUpLogging (options : LogOptions) (force : Bool) : HostM ρ Path := do
  let host ← get
  let (path, logging, files) :=
    LogSystem.setUp host.home host.environment options force host.logging host.files
  set { host with logging := logging, files := files }
  settle path

def logger : String := "quotewise.app"

/-- Sets logging up as settings ask, or for a program that has read none. -/
def configureLogging (settings : Option Settings) (debug : Bool) : HostM ρ Path := do
  let options ← settle (LogOptions.build (← get).home settings debug)
  let path ← setUpLogging options false
  modify fun host =>
    host.emit [.debug logger s!"Logging to {path.text} (level={levelName options.level})"]
  return path

end Host

end QuoteDesk
