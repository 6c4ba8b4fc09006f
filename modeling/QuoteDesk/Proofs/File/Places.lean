import Mathlib.Data.List.Basic
import QuoteDesk.Proofs.File.Storage
import QuoteDesk.Proofs.Results

/-!
# Places of files

What is put at one place leaves the others as they were.  A path leads where it led as long as
no directory goes away, so the files of a directory can be written one after the other.  A
file is written beside its draft, and nothing else changes.
-/

namespace QuoteDesk

namespace FileStore

variable {files after : FileStore} {path directory : Path} {place reached : List String}
  {part name : String} {parts : List String} {data : List UInt8}

/-! ## What lies at a place -/

theorem lookup_elsewhere (nodes : List (List String × FileNode)) (place other : List String) :
    (nodes.filter fun entry => entry.1 ≠ place).lookup other =
      if other = place then none else nodes.lookup other := by
  induction nodes with
  | nil => exact (ite_self _).symm
  | cons entry rest inductionHypothesis =>
      obtain ⟨key, node⟩ := entry
      by_cases dropped : key = place
      · subst dropped
        rw [List.filter_cons_of_neg (by simp), inductionHypothesis, List.lookup_cons]
        by_cases same : other = key
        · rw [if_pos same, if_pos same]
        · rw [if_neg same, if_neg same, beq_false_of_ne same]
      · rw [List.filter_cons_of_pos (by simpa using dropped), List.lookup_cons, List.lookup_cons,
          inductionHypothesis]
        by_cases same : other = key
        · subst same
          rw [beq_self_eq_true]
          exact (if_neg dropped).symm
        · rw [beq_false_of_ne same]

theorem below (place : List String) (name : String) : place ++ [name] ≠ [] :=
  List.append_ne_nil_of_right_ne_nil place (List.cons_ne_nil name [])

theorem node?_root (files : FileStore) : files.node? [] = some .directory :=
  rfl

theorem node?_of_ne_nil (below : place ≠ []) : files.node? place = files.nodes.lookup place :=
  if_neg (by rwa [List.isEmpty_iff])

theorem node?_put (below : place ≠ []) (node : FileNode) (other : List String) :
    (files.put place node).node? other = if other = place then some node else files.node? other := by
  by_cases root : other = []
  · subst root
    rw [if_neg (Ne.symm below), node?_root, node?_root]
  · rw [node?_of_ne_nil root, node?_of_ne_nil root, put]
    dsimp only
    rw [List.lookup_append, lookup_elsewhere, List.lookup_cons]
    by_cases same : other = place
    · rw [if_pos same, if_pos same, same, beq_self_eq_true]
      rfl
    · rw [if_neg same, if_neg same, beq_false_of_ne same]
      exact Option.or_none

theorem node?_take (below : place ≠ []) (other : List String) :
    (files.take place).node? other = if other = place then none else files.node? other := by
  by_cases root : other = []
  · subst root
    rw [if_neg (Ne.symm below), node?_root, node?_root]
  · rw [node?_of_ne_nil root, node?_of_ne_nil root]
    exact lookup_elsewhere files.nodes place other

/-! ## Where paths lead -/

theorem follow_cons_eq_ok_iff :
    files.follow path place (part :: parts) = .ok reached ↔
      files.node? place = some .directory ∧
        files.follow path (if part = ".." then place.dropLast else place ++ [part]) parts =
          .ok reached := by
  rw [follow]
  split
  · next missing => exact iff_of_false (by rintro ⟨⟩) (by rw [missing]; rintro ⟨⟨⟩, -⟩)
  · next isFile => exact iff_of_false (by rintro ⟨⟩) (by rw [isFile]; rintro ⟨⟨⟩, -⟩)
  · next isDirectory => rw [isDirectory]; exact (and_iff_right rfl).symm

/-- The text of a path stands in its faults only. -/
theorem follow_append
    (other : Path) (led : files.follow path place parts = .ok reached) (rest : List String) :
    files.follow other place (parts ++ rest) = files.follow other reached rest := by
  induction parts generalizing place with
  | nil =>
      cases led
      rfl
  | cons part more inductionHypothesis =>
      obtain ⟨isDirectory, further⟩ := follow_cons_eq_ok_iff.mp led
      rw [List.cons_append, follow, isDirectory]
      exact inductionHypothesis further

theorem exists_of_follow_concat (led : files.follow path place (parts ++ [name]) = .ok reached) :
    ∃ before, files.follow path place parts = .ok before ∧
      files.node? before = some .directory := by
  induction parts generalizing place with
  | nil => exact ⟨place, rfl, (follow_cons_eq_ok_iff.mp led).1⟩
  | cons part more inductionHypothesis =>
      obtain ⟨isDirectory, further⟩ := follow_cons_eq_ok_iff.mp led
      obtain ⟨before, ledBefore, beforeIs⟩ := inductionHypothesis further
      exact ⟨before, follow_cons_eq_ok_iff.mpr ⟨isDirectory, ledBefore⟩, beforeIs⟩

/-- On the way to a directory there are only directories. -/
theorem exists_directory_on_way
    (other : Path) (led : files.follow path place parts = .ok reached)
    (isDirectory : files.node? reached = some .directory) (count : Nat) :
    ∃ before, files.follow other place (parts.take count) = .ok before ∧
      files.node? before = some .directory := by
  induction parts generalizing place count with
  | nil =>
      cases led
      exact ⟨reached, by rw [List.take_nil]; rfl, isDirectory⟩
  | cons part more inductionHypothesis =>
      obtain ⟨startIs, further⟩ := follow_cons_eq_ok_iff.mp led
      cases count with
      | zero => exact ⟨place, rfl, startIs⟩
      | succ count =>
          obtain ⟨before, ledBefore, beforeIs⟩ := inductionHypothesis further count
          exact ⟨before, follow_cons_eq_ok_iff.mpr ⟨startIs, ledBefore⟩, beforeIs⟩

/-- No directory goes away, and paths start where they started. -/
structure Keeps (files after : FileStore) : Prop where
  start : after.start = files.start
  directory : ∀ {place : List String},
    files.node? place = some .directory → after.node? place = some .directory

theorem Keeps.follow (keeps : Keeps files after)
    (led : files.follow path place parts = .ok reached) :
    after.follow path place parts = .ok reached := by
  induction parts generalizing place with
  | nil => exact led
  | cons part more inductionHypothesis =>
      obtain ⟨isDirectory, further⟩ := follow_cons_eq_ok_iff.mp led
      exact follow_cons_eq_ok_iff.mpr ⟨keeps.directory isDirectory, inductionHypothesis further⟩

theorem Keeps.locate (keeps : Keeps files after) (located : files.locate path = .ok place) :
    after.locate path = .ok place := by
  rw [FileStore.locate] at located ⊢
  rw [keeps.start]
  exact keeps.follow located

/-- Only some places change, and no directory comes or goes. -/
structure Spares (changed : List (List String)) (files after : FileStore) : Prop where
  start : after.start = files.start
  directory_iff : ∀ place,
    after.node? place = some .directory ↔ files.node? place = some .directory
  node? : ∀ place, place ∉ changed → after.node? place = files.node? place

namespace Spares

variable {changed more : List (List String)} {last : FileStore}

theorem rfl {files : FileStore} : Spares changed files files :=
  ⟨Eq.refl _, fun _ => Iff.rfl, fun _ _ => Eq.refl _⟩

theorem trans (first : Spares changed files after) (second : Spares changed after last) :
    Spares changed files last where
  start := second.start.trans first.start
  directory_iff place := (second.directory_iff place).trans (first.directory_iff place)
  node? place spared := (second.node? place spared).trans (first.node? place spared)

theorem mono (spares : Spares changed files after) (all : changed ⊆ more) :
    Spares more files after :=
  ⟨spares.start, spares.directory_iff, fun place spared =>
    spares.node? place fun member => spared (all member)⟩

theorem keeps (spares : Spares changed files after) : Keeps files after :=
  ⟨spares.start, fun {place} => (spares.directory_iff place).mpr⟩

theorem put (below : place ≠ []) (free : files.node? place ≠ some .directory)
    (data : List UInt8) : Spares [place] files (files.put place (.file data)) := by
  refine ⟨Eq.refl _, fun other => ?_, fun other spared => ?_⟩
  · rw [node?_put below]
    by_cases same : other = place
    · subst same
      rw [if_pos (Eq.refl _)]
      exact iff_of_false (by rintro ⟨⟩) free
    · rw [if_neg same]
  · rw [node?_put below, if_neg (by rwa [List.mem_singleton] at spared)]

theorem take (below : place ≠ []) (free : files.node? place ≠ some .directory) :
    Spares [place] files (files.take place) := by
  refine ⟨Eq.refl _, fun other => ?_, fun other spared => ?_⟩
  · rw [node?_take below]
    by_cases same : other = place
    · subst same
      rw [if_pos (Eq.refl _)]
      exact iff_of_false (by rintro ⟨⟩) free
    · rw [if_neg same]
  · rw [node?_take below, if_neg (by rwa [List.mem_singleton] at spared)]

end Spares

theorem exists_of_read (read : files.read path = .ok data) :
    ∃ place, files.locate path = .ok place ∧ files.node? place = some (.file data) := by
  obtain ⟨place, located, found⟩ := exists_of_bind_eq_ok read
  refine ⟨place, located, ?_⟩
  cases held : files.node? place with
  | none =>
      rw [held] at found
      cases found
  | some node =>
      cases node with
      | directory =>
          rw [held] at found
          cases found
      | file before =>
          rw [held] at found
          cases found
          rfl

/-- What is read from a path is what lies there. -/
theorem read_of_nodeAt? (node : FileNode) :
    files.nodeAt? path = some node → files.read path =
      match node with
      | .directory => .error (.isDirectory path.text)
      | .file data => .ok data := by
  intro found
  unfold nodeAt? at found
  split at found
  · next place located =>
      rw [read, located]
      dsimp only [bind, Except.bind]
      rw [found]
      cases node <;> rfl
  · cases found

theorem contains_congr (same : after.nodeAt? path = files.nodeAt? path) :
    after.contains path = files.contains path := by
  rw [contains, contains, same]

theorem readText_congr
    (same : after.nodeAt? path = files.nodeAt? path) (there : files.contains path = true) :
    after.readText path = files.readText path := by
  obtain ⟨node, found⟩ := Option.isSome_iff_exists.mp there
  rw [readText, readText, read_of_nodeAt? node found,
    read_of_nodeAt? node (same.trans found)]

/-! ## Directories -/

/-- A path leads to a directory. -/
structure HasDirectory (files : FileStore) (directory : Path) (place : List String) : Prop where
  located : files.locate directory = .ok place
  isDirectory : files.node? place = some .directory

/-- Where a path leads on, its directory is there. -/
theorem exists_hasDirectory (located : files.locate (directory.child name) = .ok reached) :
    ∃ place, files.HasDirectory directory place := by
  obtain ⟨place, led, isDirectory⟩ := exists_of_follow_concat located
  refine ⟨place, ?_, isDirectory⟩
  have again := follow_append directory led []
  rw [List.append_nil] at again
  exact again

namespace HasDirectory

theorem of_keeps (there : files.HasDirectory directory place) (keeps : Keeps files after) :
    after.HasDirectory directory place :=
  ⟨keeps.locate there.located, keeps.directory there.isDirectory⟩

theorem makeDirectories (there : files.HasDirectory directory place) :
    files.makeDirectories directory = .ok files := by
  have stays : ∀ count, files.makeDirectory directory (directory.parts.take count) = .ok files := by
    intro count
    obtain ⟨before, led, isDirectory⟩ := exists_directory_on_way
      { directory with parts := directory.parts.take count } there.located there.isDirectory count
    have located :
        files.locate { directory with parts := directory.parts.take count } = .ok before := led
    rw [makeDirectory, located]
    dsimp only [bind, Except.bind]
    rw [isDirectory]
    rfl
  unfold FileStore.makeDirectories
  induction List.range directory.parts.length with
  | nil => rfl
  | cons count rest inductionHypothesis =>
      rw [List.foldlM_cons, stays]
      exact inductionHypothesis

theorem locate_child (there : files.HasDirectory directory place) (down : name ≠ "..") :
    files.locate (directory.child name) = .ok (place ++ [name]) := by
  have led := follow_append (directory.child name) there.located [name]
  rw [follow_cons_eq_ok_iff.mpr ⟨there.isDirectory, by rw [if_neg down]; rfl⟩] at led
  exact led

theorem nodeAt?_child (there : files.HasDirectory directory place) (down : name ≠ "..") :
    files.nodeAt? (directory.child name) = files.node? (place ++ [name]) := by
  rw [nodeAt?, there.locate_child down]

theorem contains_child (there : files.HasDirectory directory place) (down : name ≠ "..") :
    files.contains (directory.child name) = (files.node? (place ++ [name])).isSome := by
  rw [contains, there.nodeAt?_child down]

theorem read_child
    (there : files.HasDirectory directory place) (down : name ≠ "..")
    (held : files.node? (place ++ [name]) = some (.file data)) :
    files.read (directory.child name) = .ok data := by
  rw [read, there.locate_child down]
  dsimp only [bind, Except.bind]
  rw [held]
  rfl

theorem node?_of_read_child
    (there : files.HasDirectory directory place) (down : name ≠ "..")
    (read : files.read (directory.child name) = .ok data) :
    files.node? (place ++ [name]) = some (.file data) := by
  obtain ⟨reached, located, held⟩ := exists_of_read read
  rw [there.locate_child down] at located
  cases located
  exact held

theorem write_child
    (there : files.HasDirectory directory place) (down : name ≠ "..")
    (free : files.node? (place ++ [name]) ≠ some .directory) (data : List UInt8) :
    files.write (directory.child name) data = .ok (files.put (place ++ [name]) (.file data)) := by
  rw [write, there.locate_child down]
  dsimp only [bind, Except.bind]
  rw [List.dropLast_concat, there.isDirectory]
  cases found : files.node? (place ++ [name]) with
  | none => rfl
  | some node =>
      cases node with
      | directory => exact absurd found free
      | file before => rfl

theorem write_child_of_directory
    (there : files.HasDirectory directory place) (down : name ≠ "..")
    (taken : files.node? (place ++ [name]) = some .directory) (data : List UInt8) :
    files.write (directory.child name) data =
      .error (.isDirectory (directory.child name).text) := by
  rw [write, there.locate_child down]
  dsimp only [bind, Except.bind]
  rw [taken]
  rfl

theorem spares_of_write
    (there : files.HasDirectory directory place) (down : name ≠ "..")
    (written : files.write (directory.child name) data = .ok after) :
    Spares [place ++ [name]] files after := by
  by_cases free : files.node? (place ++ [name]) = some .directory
  · rw [there.write_child_of_directory down free] at written
    cases written
  · rw [there.write_child down free] at written
    cases written
    exact .put (below place name) free data

theorem move_child
    {target : String} (there : files.HasDirectory directory place) (down : name ≠ "..")
    (targetDown : target ≠ "..") (held : files.node? (place ++ [name]) = some (.file data))
    (free : files.node? (place ++ [target]) ≠ some .directory) :
    files.move (directory.child name) (directory.child target) =
      .ok ((files.take (place ++ [name])).put (place ++ [target]) (.file data)) := by
  rw [move, there.read_child down held, there.locate_child targetDown, there.locate_child down]
  dsimp only [bind, Except.bind]
  rw [if_neg free]
  rfl

theorem spares_of_move
    {target : String} (there : files.HasDirectory directory place) (down : name ≠ "..")
    (targetDown : target ≠ "..")
    (moved : files.move (directory.child name) (directory.child target) = .ok after) :
    Spares [place ++ [target], place ++ [name]] files after := by
  obtain ⟨data, read, -⟩ := exists_of_bind_eq_ok moved
  have held := there.node?_of_read_child down read
  have free : files.node? (place ++ [target]) ≠ some .directory := by
    intro taken
    rw [move, read, there.locate_child targetDown] at moved
    dsimp only [bind, Except.bind] at moved
    rw [if_pos taken] at moved
    cases moved
  rw [there.move_child down targetDown held free] at moved
  cases moved
  have sparesTaking : Spares [place ++ [name]] files (files.take (place ++ [name])) :=
    .take (below place name) (by rw [held]; rintro ⟨⟩)
  have sparesPutting := Spares.put (below place target)
    (mt (sparesTaking.directory_iff _).mp free) data
  exact (sparesTaking.mono (List.subset_cons_self _ _)).trans (sparesPutting.mono (by simp))

end HasDirectory

/-- A directory that could be made is there. -/
theorem exists_hasDirectory_of_makeDirectory
    {path : Path} {parts : List String} (made : files.makeDirectory path parts = .ok after) :
    ∃ place, after.HasDirectory { path with parts := parts } place := by
  obtain ⟨place, located, putLast⟩ := exists_of_bind_eq_ok made
  cases found : files.node? place with
  | none =>
      rw [found] at putLast
      cases putLast
      have below : place ≠ [] := by
        rintro rfl
        cases found
      have keeps : Keeps files (files.put place .directory) := by
        refine ⟨rfl, fun {other} isDirectory => ?_⟩
        rw [node?_put below, isDirectory, ite_self]
      exact ⟨place, keeps.locate located, by rw [node?_put below, if_pos rfl]⟩
  | some node =>
      rw [found] at putLast
      cases node with
      | directory =>
          cases putLast
          exact ⟨place, located, found⟩
      | file data =>
          dsimp only at putLast
          split at putLast <;> cases putLast

/-- The last of several directories that could be made is there.  A path without parts leads to
where paths start, which is not made. -/
theorem exists_hasDirectory_of_makeDirectories
    (started : files.node? files.start = some .directory)
    (made : files.makeDirectories directory = .ok after) :
    ∃ place, after.HasDirectory directory place := by
  unfold makeDirectories at made
  rcases List.eq_nil_or_concat directory.parts with none | ⟨before, last, parts⟩
  · rw [none] at made
    cases made
    refine ⟨if directory.slashes = 0 then files.start else [], ?_, ?_⟩
    · rw [locate, none]
      rfl
    · by_cases relative : directory.slashes = 0
      · rw [if_pos relative]
        exact started
      · rw [if_neg relative]
        exact node?_root files
  · have size : directory.parts.length = before.length + 1 := by
      rw [parts]
      simp
    rw [size, List.range_succ, List.foldlM_append] at made
    obtain ⟨ready, -, more⟩ := exists_of_bind_eq_ok made
    rw [List.foldlM_cons] at more
    obtain ⟨last, madeLast, same⟩ := exists_of_bind_eq_ok more
    cases same
    rw [List.take_of_length_le (Nat.le_of_eq size)] at madeLast
    exact exists_hasDirectory_of_makeDirectory madeLast

end FileStore

/-! ## Work in a directory -/

namespace Storage

open FileStore

variable {ρ α β : Type} {directory : Path} {place : List String}
  {changed : List (List String)} {job : StorageM ρ α}

/-- Work that changes some places only, whether it fails or not, if a directory is there. -/
def Confined (directory : Path) (place : List String) (changed : List (List String))
    (job : StorageM ρ α) : Prop :=
  ∀ storage : Storage ρ, storage.files.HasDirectory directory place →
    Spares changed storage.files (job.run storage).2.files

namespace Confined

theorem pure (value : α) : Confined directory place changed (pure value : StorageM ρ α) :=
  fun _ _ => .rfl

theorem throw (fault : Fault) : Confined directory place changed (throw fault : StorageM ρ α) :=
  fun _ _ => .rfl

theorem draw (next : ρ → α × ρ) : Confined directory place changed (draw next) :=
  fun _ _ => .rfl

theorem settle (result : Except Fault α) :
    Confined directory place changed (settle result : StorageM ρ α) := by
  intro storage there
  rw [run_settle]
  exact .rfl

theorem look (view : FileStore → Except Fault α) :
    Confined directory place changed (look view : StorageM ρ α) := by
  intro storage there
  rw [run_look]
  exact .rfl

theorem change
    {step : FileStore → Except FileFault FileStore}
    (steps : ∀ {files after : FileStore}, files.HasDirectory directory place →
      step files = .ok after → Spares changed files after) :
    Confined directory place changed (change step : StorageM ρ Unit) := by
  intro storage there
  rw [run_change]
  cases stepped : step storage.files with
  | ok files => exact steps there stepped
  | error fault => exact .rfl

theorem bind
    {next : α → StorageM ρ β} (first : Confined directory place changed job)
    (second : ∀ value, Confined directory place changed (next value)) :
    Confined directory place changed (job >>= next) := by
  intro storage there
  have sparesFirst := first storage there
  rw [run_bind]
  rcases ran : job.run storage with ⟨result, after⟩
  rw [ran] at sparesFirst
  cases result with
  | error fault => exact sparesFirst
  | ok value => exact sparesFirst.trans (second value after (there.of_keeps sparesFirst.keeps))

theorem get_bind
    {next : Storage ρ → StorageM ρ α}
    (all : ∀ storage, Confined directory place changed (next storage)) :
    Confined directory place changed (get >>= next) :=
  fun storage there => all storage storage there

theorem makeDirectories :
    Confined directory place changed
      (Storage.change fun files => files.makeDirectories directory : StorageM ρ Unit) := by
  refine .change fun {files after} there made => ?_
  rw [there.makeDirectories] at made
  cases made
  exact .rfl

end Confined

end Storage

/-! ## Drafts -/

/-- A file and its draft have different names in one directory. -/
structure Path.Drafted (path directory : Path) (name draft : String) : Prop where
  path_eq : path = directory.child name
  withSuffix : path.withSuffix ".tmp" = .ok (directory.child draft)
  down : name ≠ ".."
  draftDown : draft ≠ ".."
  distinct : name ≠ draft

namespace Storage

open FileStore

variable {ρ : Type} {path directory : Path} {name draft : String} {place : List String}
  {storage : Storage ρ}

/-- A file is replaced, unless a directory lies where its draft has to be written. -/
theorem run_replaceFile
    (storage : Storage ρ) (drafted : path.Drafted directory name draft)
    (there : storage.files.HasDirectory directory place)
    (free : storage.files.node? (place ++ [name]) ≠ some .directory)
    (draftFree : storage.files.node? (place ++ [draft]) ≠ some .directory) (data : List UInt8) :
    ∃ files, (replaceFile path data).run storage = (.ok (), { storage with files := files }) ∧
      files.node? (place ++ [name]) = some (.file data) ∧
      Spares [place ++ [name], place ++ [draft]] storage.files files := by
  let written := storage.files.put (place ++ [draft]) (.file data)
  let moved := (written.take (place ++ [draft])).put (place ++ [name]) (.file data)
  have writing := there.write_child drafted.draftDown draftFree data
  have sparesWriting : Spares [place ++ [draft]] storage.files written :=
    there.spares_of_write drafted.draftDown writing
  have writtenThere := there.of_keeps sparesWriting.keeps
  have held : written.node? (place ++ [draft]) = some (.file data) := by
    rw [node?_put (below place draft), if_pos rfl]
  have moving : written.move (directory.child draft) (directory.child name) = .ok moved :=
    writtenThere.move_child drafted.draftDown drafted.down held
      (mt (sparesWriting.directory_iff _).mp free)
  refine ⟨moved, ?_, ?_, ?_⟩
  · unfold replaceFile
    rw [run_bind, run_settle, drafted.withSuffix]
    dsimp only
    rw [run_bind, run_change, writing]
    dsimp only
    rw [run_change, drafted.path_eq]
    dsimp only
    rw [moving]
  · rw [node?_put (below place name), if_pos rfl]
  · exact (sparesWriting.mono (List.subset_cons_self _ _)).trans
      (writtenThere.spares_of_move drafted.draftDown drafted.down moving)

theorem run_replaceFile_of_directory
    (drafted : path.Drafted directory name draft)
    (there : storage.files.HasDirectory directory place)
    (taken : storage.files.node? (place ++ [draft]) = some .directory) (data : List UInt8) :
    (replaceFile path data).run storage =
      (.error (.file (.isDirectory (directory.child draft).text)), storage) := by
  unfold replaceFile
  rw [run_bind, run_settle, drafted.withSuffix]
  dsimp only
  rw [run_bind, run_change, there.write_child_of_directory drafted.draftDown taken]

/-- A file is replaced with its place and that of its draft touched, and no other. -/
theorem Confined.replaceFile (drafted : path.Drafted directory name draft) (data : List UInt8) :
    Confined directory place [place ++ [name], place ++ [draft]]
      (replaceFile path data : StorageM ρ Unit) := by
  have steps :
      (Storage.replaceFile path data : StorageM ρ Unit) =
        Storage.change (fun files => files.write (directory.child draft) data) >>= fun _ =>
          Storage.change fun files => files.move (directory.child draft) (directory.child name) := by
    unfold Storage.replaceFile
    rw [drafted.withSuffix, drafted.path_eq]
    exact pure_bind _ _
  rw [steps]
  refine .bind (.change fun there written => ?_) fun _ => .change fun there moved => ?_
  · exact (there.spares_of_write drafted.draftDown written).mono (List.subset_cons_self _ _)
  · exact there.spares_of_move drafted.draftDown drafted.down moved

end Storage

end QuoteDesk
