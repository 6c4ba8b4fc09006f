import QuoteDesk.File.Path
import QuoteDesk.Settings.Environment
import QuoteDesk.Value.Arithmetic

/-!
# Options of logging

Records go to a file in a directory, which may be left open until logging is set up, and to the
console if that is asked for. The file is rotated when it grows beyond a size.
-/

namespace QuoteDesk

open Number Text

/-- What is logged, and where. -/
structure LogOptions where
  level : Int
  directory : Option Path
  console : Value
  /-- The size that a file does not reach; zero is no bound. -/
  maxBytes : Value
  /-- The number of older files that are kept. -/
  backups : Value

namespace LogOptions

/-- The options of a program that has read no settings yet. -/
def standard : LogOptions :=
  ⟨infoLevel, none, .bool false, .int 1000000, .int 3⟩

/-- The least severity that is logged. -/
def levelFor (detailed : Bool) : Int :=
  if detailed then debugLevel else infoLevel

def pathOf (value : Value) : Except Fault Path :=
  match value with
  | .text s => .ok (.ofText s)
  | other => .error (.wrongType
      s!"expected str, bytes or os.PathLike object, not {other.typeName}")

def directoryOf (home : Path) (stated : Value) : Except Fault (Option Path) := do
  if !stated.isTruthy then return none
  return some (← (← pathOf stated).expandHome home)

def ofSettings (home : Path) (settings : Settings) (debug : Bool) : Except Fault LogOptions := do
  let level := levelFor (debug || (settings.value .debugLogging).isTruthy)
  let directory ← directoryOf home (settings.value .logDir)
  let maxBytes ← (settings.value .logMaxBytes).maximum (.int 0)
  let backups ← (settings.value .logBackupCount).maximum (.int 0)
  return ⟨level, directory, settings.value .logToConsole, maxBytes, backups⟩

/-- The options of a program, which may not have read its settings yet. -/
def build (home : Path) (settings : Option Settings) (debug : Bool) : Except Fault LogOptions :=
  match settings with
  | none => .ok { standard with level := levelFor debug }
  | some settings => ofSettings home settings debug

def directoryVariable : String := "QUOTEWISE_LOG_DIR"

def standardDirectory (home : Path) : Path :=
  (home.child ".quotewise").child "logs"

/-- The directory that the environment names, or the standard one. -/
def openDirectory (home : Path) (environment : Environment) : Except Fault Path :=
  match environment.lookup directoryVariable with
  | none => .ok (standardDirectory home)
  | some "" => .ok (standardDirectory home)
  | some source => (Path.ofText source).expandHome home

def resolve (home : Path) (environment : Environment) (options : LogOptions) :
    Except Fault LogOptions := do
  match options.directory with
  | some _ => return options
  | none => return { options with directory := some (← openDirectory home environment) }

def same (a b : LogOptions) : Bool :=
  a.level == b.level && a.directory == b.directory && a.console.same b.console &&
    a.maxBytes.same b.maxBytes && a.backups.same b.backups

end LogOptions

end QuoteDesk
