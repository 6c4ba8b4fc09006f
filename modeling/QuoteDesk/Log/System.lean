import QuoteDesk.File.Store
import QuoteDesk.Log.Options

/-!
# The logging system

Handlers write records to a file and to the console. Setting logging up again with the same options
changes nothing. A file that would reach its greatest size is put aside first: it becomes the first
of the older files, and each of those moves one place on.
-/

namespace QuoteDesk

open Number Text

inductive LogHandler where
  | nowhere
  | file (path : Path) (maxBytes backups : Value)
  | console

/-- What logging writes to: files and the console. -/
structure LogOutput where
  files : FileStore
  console : String

namespace LogHandler

def olderPath (path : Path) (age : Nat) : Path :=
  path.parent.child (path.name ++ s!".{age}")

/-- Moves a file one place on, if it is there. -/
def age (files : FileStore) (source target : Path) : FileStore :=
  if files.contains source then (files.move source target).toOption.getD files else files

/-- Puts a file aside; without a number of older files that is kept, it stays. -/
def rotate (path : Path) (backups : Nat) (files : FileStore) : FileStore :=
  match backups with
  | 0 => files
  | count + 1 =>
    let files := (List.range count).reverse.foldl
      (fun files n => age files (olderPath path (n + 1)) (olderPath path (n + 2))) files
    age files path (olderPath path 1)

/-- Whether a file of some size is to be put aside before a line is written. -/
def isFull (size : Nat) (maxBytes : Value) (line : String) : Except Fault Bool := do
  if ← maxBytes.greater (.int 0) then (Value.int (size + line.length)).atLeast maxBytes
  else return false

/-- Writes a line to a file. A line that cannot be written is lost. -/
def writeLine (path : Path) (maxBytes backups : Value) (line : String) (files : FileStore) :
    FileStore :=
  let size := ((files.read path).toOption.map List.length).getD 0
  match isFull size maxBytes line, backups.asInt? with
  | .ok full, some backups =>
    let files := if full then rotate path backups.toNat files else files
    (files.append path (Utf8.encode line.toList)).toOption.getD files
  | _, _ => files

def write (handler : LogHandler) (line : String) (output : LogOutput) : LogOutput :=
  match handler with
  | .nowhere => output
  | .file path maxBytes backups =>
    { output with files := writeLine path maxBytes backups line output.files }
  | .console => { output with console := output.console ++ line }

end LogHandler

/-- The logging system: the least severity, the handlers, the least severity of noisy loggers (zero
where none is set), the options and the path in force, and how often handlers were installed. -/
structure LogSystem where
  level : Int
  handlers : List LogHandler
  quietLevel : Int
  active : Option LogOptions
  path : Option Path
  installs : Nat

namespace LogSystem

def idle : LogSystem := ⟨warningLevel, [.nowhere], 0, none, none, 0⟩

def fileName : String := "quotewise.log"

/-- The loggers of other parts that would log too much. -/
def noisyLoggers : List String := ["asyncio", "httpx", "httpcore", "openai"]

/-! ## Setting up -/

def handlersFor (options : LogOptions) (path : Path) : List LogHandler :=
  .file path options.maxBytes options.backups ::
    (if options.console.isTruthy then [.console] else [])

def installed (system : LogSystem) (options : LogOptions) (path : Path) : LogSystem :=
  { level := options.level
    handlers := handlersFor options path
    quietLevel := max options.level warningLevel
    active := some options
    path := some path
    installs := system.installs + 1 }

/-- Sets up resolved options; the directory is made and the file is opened first. -/
def install (system : LogSystem) (options : LogOptions) (directory : Path) (files : FileStore) :
    Except Fault Path × LogSystem × FileStore :=
  match files.makeDirectories directory with
  | .error fault => (.error (.file fault), system, files)
  | .ok files =>
    let path := directory.child fileName
    match files.append path [] with
    | .error fault => (.error (.file fault), system, files)
    | .ok files => (.ok path, system.installed options path, files)

/-- The path in force, if the system was set up with the same options. -/
def settled? (system : LogSystem) (options : LogOptions) : Option Path :=
  if system.active.any options.same then system.path else none

/-- Sets the system up and gives the path of the file; `force` sets up anew what is in force. -/
def setUp (home : Path) (environment : Environment) (options : LogOptions) (force : Bool)
    (system : LogSystem) (files : FileStore) : Except Fault Path × LogSystem × FileStore :=
  match options.resolve home environment with
  | .error fault => (.error fault, system, files)
  | .ok options =>
    match if force then none else system.settled? options with
    | some path => (.ok path, system, files)
    | none =>
      system.install options (options.directory.getD (LogOptions.standardDirectory home)) files

/-! ## Writing -/

/-- The part of a logger's name before its first dot. -/
def family (logger : String) : String :=
  String.ofList (logger.toList.takeWhile (· != '.'))

def levelOf (system : LogSystem) (logger : String) : Int :=
  if noisyLoggers.contains (family logger) && system.quietLevel ≠ 0 then system.quietLevel
  else system.level

/-- A text filled with blanks up to eight characters. -/
def filledUp (s : String) : String :=
  s ++ String.ofList (List.replicate (8 - s.length) ' ')

def line (clock : String) (entry : LogRecord) : String :=
  clock ++ " | " ++ filledUp (levelName entry.level) ++ " | " ++ entry.logger ++ " | " ++
    entry.message ++ "\n"

/-- Writes a record, if its logger is to be heard. -/
def write (system : LogSystem) (clock : String) (output : LogOutput) (entry : LogRecord) : LogOutput :=
  if system.levelOf entry.logger ≤ entry.level then
    system.handlers.foldl (fun output handler =>
      handler.write (line clock entry) output) output
  else output

def writeAll (system : LogSystem) (clock : String) (output : LogOutput) (log : List LogRecord) :
    LogOutput :=
  log.foldl (system.write clock) output

end LogSystem

end QuoteDesk
