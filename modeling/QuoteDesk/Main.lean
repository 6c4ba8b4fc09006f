import QuoteDesk.Program
import Std.Time.Format
import Std.Time.Zoned

/-!
# The command line

The outermost layer of the program. It brings the files that a run may touch, shows what the run
says, and writes back the files that the run changed. There is no connection to a model here: every
request to it is answered like one that could not be sent.
-/

namespace QuoteDesk

/-! ## Files -/

def placeText (place : List String) : String :=
  (Path.mk 1 place).text

/-- Brings what lies at a place, and says whether anything does. -/
def fetchPlace (files : FileStore) (place : List String) : IO (FileStore × Bool) := do
  if (files.node? place).isSome then return (files, true)
  try
    let data ← IO.FS.readBinFile (placeText place)
    return (files.put place (.file data.toList), true)
  catch fault =>
    match fault with
    | .inappropriateType _ _ _ => return (files.put place .directory, true)
    | _ => return (files, false)

/-- Brings what a path leads to, and the directories on the way to it. -/
def fetch (files : FileStore) (path : Path) : IO FileStore := do
  let mut files := files
  let mut place := if path.slashes = 0 then files.start else []
  for part in path.parts do
    place := if part = ".." then place.dropLast else place ++ [part]
    let (brought, isThere) ← fetchPlace files place
    files := brought
    if !isThere then return files
  return files

/-- Writes back what a run changed. -/
def writeBack (before after : FileStore) : IO Unit := do
  for (place, _) in before.nodes do
    if (after.node? place).isNone then IO.FS.removeFile (placeText place)
  for (place, node) in after.nodes do
    if before.node? place ≠ some node then
      match node with
      | .directory => IO.FS.createDirAll (placeText place)
      | .file data => IO.FS.writeBinFile (placeText place) ⟨data.toArray⟩

/-- Leaves a file to its owner alone, if it is there. -/
def protect (files : FileStore) (path : Path) : IO Unit := do
  if let .ok place := files.locate path then
    if (files.node? place).isSome then
      let nobody : IO.AccessRight := ⟨false, false, false⟩
      IO.setAccessRights (placeText place) ⟨⟨true, true, false⟩, nobody, nobody⟩

/-! ## The host -/

/-- The time that log lines carry. -/
def clockText : IO String := do
  return (← Std.Time.PlainDateTime.now).format "uuuu-MM-dd HH:mm:ss"

/-- The variables that a run looks at, as far as they are set. -/
def readEnvironment : IO Environment := do
  Program.environmentNames.filterMapM fun name => do
    return (← IO.getEnv name).map fun text => (name, text)

def gatherEntropy : IO Entropy := do
  let now ← Std.Time.Timestamp.now
  return ⟨(← IO.getRandomBytes 32).toList, 0, now.toSecondsSinceUnixEpoch.val.toNat⟩

/-- The host that the process runs on; no files are brought yet. -/
def thisHost : IO (Host Entropy) := do
  let home := Path.ofText ((← IO.getEnv "HOME").getD "/")
  let files : FileStore := ⟨(Path.ofText (← IO.currentDir).toString).parts, []⟩
  return .fresh home (← readEnvironment) (← clockText) (← fetch files ⟨0, []⟩) (← gatherEntropy)

def bring (host : Host ρ) (paths : List Path) : IO (Host ρ) := do
  return { host with files := ← paths.foldlM fetch host.files }

/-- Shows what was said on a host and writes back the files that changed. -/
def reveal (before : FileStore) (host : Host ρ) : IO (Host ρ) := do
  writeBack before host.files
  let output ← IO.getStdout
  output.putStr host.output
  output.flush
  (← IO.getStderr).putStr host.errors
  return host.shown

/-- Brings files to a host and does work on it. -/
def perform (host : Host ρ) (paths : List Path) (job : HostM ρ α) :
    ExceptT Ending IO (α × Host ρ) := do
  let host ← bring { host with clock := ← clockText } paths
  let (result, after) := job.run host
  let after ← reveal host.files after
  return (← liftExcept result, after)
where
  liftExcept (result : Except Ending α) : ExceptT Ending IO α := ExceptT.mk (pure result)

/-! ## The run -/

/-- A connection over which nothing reaches a model. -/
def noConnection : Transport Unit where
  send state _ := (.error (.reported "APIConnectionError" "Connection error."), state)

/-- Reads lines and takes them until the run ends. -/
partial def converse (backend : Backend κ) (sitting : Sitting ρ κ) : IO Ending := do
  let host ← reveal sitting.host.files sitting.ask.host
  let line ← (← IO.getStdin).getLine
  if line.isEmpty then return .exits 0
  let text := if line.endsWith "\n" then (line.dropEnd 1).toString else line
  let waiting := { sitting with host := { host with clock := ← clockText } }
  let (ending?, taken) := waiting.take backend text
  let next := { taken with host := ← reveal host.files taken.host }
  match ending? with
  | some ending => return ending
  | none => converse backend next

def runProgram (arguments : List String) : ExceptT Ending IO Ending := do
  let (request, host) ← perform (← thisHost) [] (Program.readRequest arguments)
  let (settings, host) ← perform host (Program.settingsFiles host request)
    (Program.readSettings Fernet.cipher request)
  if let some path := Program.keyFile? host request then protect host.files path
  let (opening, host) ← perform host (Program.consoleFiles host request settings)
    (Program.prepare request settings)
  let backend := (opening.assistant (Client.responder noConnection opening.client)).backend
  converse backend (.begin host opening.console ())

end QuoteDesk

/-- Runs the program and gives its exit status. A fault that ends the run is named. -/
def main (arguments : List String) : IO UInt32 := do
  match ← (QuoteDesk.runProgram arguments).run with
  | .ok (.exits status) | .error (.exits status) => return status.toUInt32
  | .ok (.fails fault) | .error (.fails fault) =>
    IO.eprintln fault.line
    return 1
