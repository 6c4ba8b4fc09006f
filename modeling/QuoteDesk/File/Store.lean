import QuoteDesk.File.Path

/-!
# Files

Files and directories lie at places, which are lists of names from the root. A path leads to a place
step by step; every step needs a directory to start from.
-/

namespace QuoteDesk

open Text

/-- What lies at a place. -/
inductive FileNode where
  | file (data : List UInt8)
  | directory
deriving DecidableEq, Repr

/-- Files and directories, and the place at which paths without a root start. The root itself is
always a directory. -/
structure FileStore where
  start : List String
  nodes : List (List String × FileNode)
deriving Repr

namespace FileStore

/-! ## Places -/

/-- What lies at a place. -/
def node? (store : FileStore) (place : List String) : Option FileNode :=
  if place.isEmpty then some .directory else store.nodes.lookup place

def put (store : FileStore) (place : List String) (node : FileNode) : FileStore :=
  let rest := store.nodes.filter fun entry => entry.1 ≠ place
  { store with nodes := rest ++ [(place, node)] }

def take (store : FileStore) (place : List String) : FileStore :=
  { store with nodes := store.nodes.filter fun entry => entry.1 ≠ place }

def follow (store : FileStore) (path : Path) (place : List String) :
    List String → Except FileFault (List String)
  | [] => .ok place
  | part :: rest =>
    match store.node? place with
    | none => .error (.missing path.text)
    | some (.file _) => .error (.notDirectory path.text)
    | some .directory =>
      follow store path (if part = ".." then place.dropLast else place ++ [part]) rest

/-- The place that a path leads to; nothing has to lie there. -/
def locate (store : FileStore) (path : Path) : Except FileFault (List String) :=
  store.follow path (if path.slashes = 0 then store.start else []) path.parts

/-- What lies where a path leads to, if it leads anywhere. -/
def nodeAt? (store : FileStore) (path : Path) : Option FileNode :=
  match store.locate path with
  | .ok place => store.node? place
  | .error _ => none

def contains (store : FileStore) (path : Path) : Bool :=
  (store.nodeAt? path).isSome

/-! ## Reading and writing -/

def read (store : FileStore) (path : Path) : Except FileFault (List UInt8) := do
  match store.node? (← store.locate path) with
  | none => throw (.missing path.text)
  | some .directory => throw (.isDirectory path.text)
  | some (.file data) => return data

/-- Writes a file, which may be new; its directory has to be there. -/
def write (store : FileStore) (path : Path) (data : List UInt8) : Except FileFault FileStore := do
  let place ← store.locate path
  match store.node? place, store.node? place.dropLast with
  | some .directory, _ => throw (.isDirectory path.text)
  | _, none => throw (.missing path.text)
  | _, some (.file _) => throw (.notDirectory path.text)
  | _, some .directory => return store.put place (.file data)

/-- Adds bytes to the end of a file, which may be new. -/
def append (store : FileStore) (path : Path) (data : List UInt8) : Except FileFault FileStore :=
  match store.read path with
  | .ok before => store.write path (before ++ data)
  | .error _ => store.write path data

/-- Moves a file to a path, over a file that lies there. -/
def move (store : FileStore) (source target : Path) : Except FileFault FileStore := do
  let data ← store.read source
  let place ← store.locate target
  if store.node? place = some .directory then throw (.ontoDirectory source.text target.text)
  let store := store.take (← store.locate source)
  return store.put place (.file data)

/-- Takes away a file, if there is one. -/
def erase (store : FileStore) (path : Path) : FileStore :=
  match store.locate path with
  | .ok place => store.take place
  | .error _ => store

/-! ## Directories -/

/-- Makes a directory on the way to a path, unless there is one. -/
def makeDirectory (store : FileStore) (path : Path) (parts : List String) :
    Except FileFault FileStore := do
  let place ← store.locate { path with parts := parts }
  match store.node? place with
  | some .directory => return store
  | some (.file _) =>
    if parts = path.parts then throw (.exists path.text) else throw (.notDirectory path.text)
  | none => return store.put place .directory

/-- Makes a directory and all directories on the way to it. -/
def makeDirectories (store : FileStore) (path : Path) : Except FileFault FileStore :=
  (List.range path.parts.length).foldlM
    (fun store count => store.makeDirectory path (path.parts.take (count + 1))) store

/-! ## Texts -/

/-- Replaces every line end by a line feed. -/
def unifyLines : List Char → List Char
  | '\r' :: '\n' :: rest => '\n' :: unifyLines rest
  | '\r' :: rest => '\n' :: unifyLines rest
  | c :: rest => c :: unifyLines rest
  | [] => []

def readText (store : FileStore) (path : Path) : Except Fault String := do
  let data ← (store.read path).mapError .file
  let chars ← (Utf8.decode data).mapError .undecodable
  return String.ofList (unifyLines chars)

end FileStore

end QuoteDesk
