import QuoteDesk.File.Store
import QuoteDesk.Log

/-!
# Storage

Work on files goes on after a failure with what was written before it: a storage holds the files, a
source of randomness and the records made, and all three outlive a fault.
-/

namespace QuoteDesk

open Text

/-- Files, a source of randomness and the records made. -/
structure Storage (ρ : Type) where
  files : FileStore
  random : ρ
  log : List LogRecord

/-- Work on a storage that may fail. What was done before a fault stays done. -/
abbrev StorageM (ρ : Type) := ExceptT Fault (StateM (Storage ρ))

namespace Storage

def note (entry : LogRecord) : StorageM ρ Unit :=
  modify fun storage => { storage with log := storage.log ++ [entry] }

def draw (next : ρ → α × ρ) : StorageM ρ α := do
  let storage ← get
  let (drawn, random) := next storage.random
  set { storage with random := random }
  return drawn

def look (view : FileStore → Except Fault α) : StorageM ρ α := do
  match view (← get).files with
  | .ok seen => return seen
  | .error fault => throw fault

def change (step : FileStore → Except FileFault FileStore) : StorageM ρ Unit := do
  let storage ← get
  match step storage.files with
  | .ok files => set { storage with files := files }
  | .error fault => throw (.file fault)

def settle (result : Except Fault α) : StorageM ρ α :=
  match result with
  | .ok value => return value
  | .error fault => throw fault

/-- Writes a file beside its final place and moves it there, so that there is never half a file. -/
def replaceFile (path : Path) (data : List UInt8) : StorageM ρ Unit := do
  let draft ← settle (path.withSuffix ".tmp")
  change fun files => files.write draft data
  change fun files => files.move draft path

end Storage

end QuoteDesk
