import QuoteDesk.File.Storage

/-!
# Work on a storage

What work on a storage does is read step by step.  Records are only ever added, so the
outcome of work, the files and the randomness that it leaves do not depend on the records
that were made before.
-/

namespace QuoteDesk

namespace Storage

variable {ρ α β : Type} {storage : Storage ρ} {job : StorageM ρ α}

/-! ## Runs -/

theorem run_bind (job : StorageM ρ α) (next : α → StorageM ρ β) (storage : Storage ρ) :
    (job >>= next).run storage =
      match job.run storage with
      | (.ok value, after) => (next value).run after
      | (.error fault, after) => (.error fault, after) := by
  change ExceptT.bindCont next (job.run storage).1 (job.run storage).2 = _
  rcases job.run storage with ⟨_ | _, after⟩ <;> rfl

theorem run_tryCatch
    (job : StorageM ρ α) (handler : Fault → StorageM ρ α) (storage : Storage ρ) :
    (tryCatch job handler).run storage =
      match job.run storage with
      | (.ok value, after) => (.ok value, after)
      | (.error fault, after) => (handler fault).run after := by
  simp only [tryCatch, tryCatchThe, MonadExceptOf.tryCatch, ExceptT.tryCatch, ExceptT.run_mk]
  change StateT.bind job.run _ storage = _
  unfold StateT.bind
  rcases job.run storage with ⟨_ | _, after⟩ <;> rfl

theorem run_get (storage : Storage ρ) :
    (get : StorageM ρ (Storage ρ)).run storage = (.ok storage, storage) :=
  rfl

theorem run_settle (result : Except Fault α) (storage : Storage ρ) :
    (settle result).run storage = (result, storage) := by
  cases result <;> rfl

theorem run_look (view : FileStore → Except Fault α) (storage : Storage ρ) :
    (look view).run storage = (view storage.files, storage) := by
  unfold look
  rw [run_bind, run_get]
  dsimp only
  cases view storage.files <;> rfl

theorem run_change (step : FileStore → Except FileFault FileStore) (storage : Storage ρ) :
    (change step).run storage =
      match step storage.files with
      | .ok files => (.ok (), { storage with files := files })
      | .error fault => (.error (.file fault), storage) := by
  unfold change
  rw [run_bind, run_get]
  dsimp only
  cases step storage.files <;> rfl

theorem run_draw (next : ρ → α × ρ) (storage : Storage ρ) :
    (draw next).run storage =
      (.ok (next storage.random).1, { storage with random := (next storage.random).2 }) :=
  rfl

/-! ## Records are passed over -/

/-- Two storages that differ at most in the records made. -/
structure SameButLog (storage other : Storage ρ) : Prop where
  files : storage.files = other.files
  random : storage.random = other.random

theorem SameButLog.rfl {storage : Storage ρ} : SameButLog storage storage :=
  ⟨Eq.refl _, Eq.refl _⟩

theorem SameButLog.symm
    {other : Storage ρ} (same : SameButLog storage other) : SameButLog other storage :=
  ⟨same.files.symm, same.random.symm⟩

theorem SameButLog.trans
    {first second third : Storage ρ} (before : SameButLog first second)
    (after : SameButLog second third) : SameButLog first third :=
  ⟨before.files.trans after.files, before.random.trans after.random⟩

theorem sameButLog_note (entry : LogRecord) (storage : Storage ρ) :
    SameButLog ((note entry).run storage).2 storage :=
  ⟨rfl, rfl⟩

/-- Where all that follows makes records only, a job leaves what its first part does. -/
theorem sameButLog_bind
    {next : α → StorageM ρ β}
    (quiet : ∀ value storage, SameButLog ((next value).run storage).2 storage)
    (storage : Storage ρ) :
    SameButLog ((job >>= next).run storage).2 (job.run storage).2 := by
  rw [run_bind]
  rcases job.run storage with ⟨fault | value, after⟩
  · exact .rfl
  · exact quiet value after

/-- Work that does not depend on the records made before it. -/
def PassesOverLog (job : StorageM ρ α) : Prop :=
  ∀ ⦃storage other : Storage ρ⦄, SameButLog storage other →
    (job.run storage).1 = (job.run other).1 ∧
      SameButLog (job.run storage).2 (job.run other).2

namespace PassesOverLog

theorem pure (value : α) : PassesOverLog (pure value : StorageM ρ α) :=
  fun _ _ same => ⟨rfl, same⟩

theorem throw (fault : Fault) : PassesOverLog (throw fault : StorageM ρ α) :=
  fun _ _ same => ⟨rfl, same⟩

theorem note (entry : LogRecord) : PassesOverLog (note entry : StorageM ρ Unit) :=
  fun _ _ same => ⟨rfl, same.files, same.random⟩

theorem settle (result : Except Fault α) : PassesOverLog (settle result : StorageM ρ α) := by
  intro storage other same
  rw [run_settle, run_settle]
  exact ⟨rfl, same⟩

theorem look (view : FileStore → Except Fault α) :
    PassesOverLog (look view : StorageM ρ α) := by
  intro storage other same
  rw [run_look, run_look, same.files]
  exact ⟨rfl, same⟩

theorem change (step : FileStore → Except FileFault FileStore) :
    PassesOverLog (change step : StorageM ρ Unit) := by
  intro storage other same
  rw [run_change, run_change, same.files]
  cases step other.files with
  | ok files => exact ⟨rfl, rfl, same.random⟩
  | error fault => exact ⟨rfl, same⟩

theorem draw (next : ρ → α × ρ) : PassesOverLog (draw next) := by
  intro storage other same
  rw [run_draw, run_draw, same.random]
  exact ⟨rfl, same.files, rfl⟩

theorem bind
    {next : α → StorageM ρ β} (first : PassesOverLog job)
    (second : ∀ value, PassesOverLog (next value)) : PassesOverLog (job >>= next) := by
  intro storage other same
  obtain ⟨sameResult, sameAfter⟩ := first same
  rw [run_bind, run_bind]
  rcases ranHere : job.run storage with ⟨result, after⟩
  rcases ranThere : job.run other with ⟨otherResult, otherAfter⟩
  rw [ranHere, ranThere] at sameResult sameAfter
  dsimp only at sameResult sameAfter
  subst sameResult
  cases result with
  | error fault => exact ⟨rfl, sameAfter⟩
  | ok value => exact second value sameAfter

theorem get_bind
    {next : Storage ρ → StorageM ρ α} (all : ∀ storage, PassesOverLog (next storage))
    (byFiles : ∀ {storage other}, storage.files = other.files → next storage = next other) :
    PassesOverLog (get >>= next) := by
  intro storage other same
  rw [run_bind, run_bind, run_get, run_get]
  dsimp only
  rw [byFiles same.files]
  exact all other same

theorem replaceFile (path : Path) (data : List UInt8) :
    PassesOverLog (replaceFile path data : StorageM ρ Unit) :=
  bind (settle _) fun _ => bind (change _) fun _ => change _

end PassesOverLog

/-! ## Faults of work -/

/-- Work that fails with faults of one sort only. -/
def FailsOnly (expected : Fault → Prop) (job : StorageM ρ α) : Prop :=
  ∀ storage fault, (job.run storage).1 = .error fault → expected fault

namespace FailsOnly

variable {expected : Fault → Prop}

theorem pure (value : α) : FailsOnly expected (pure value : StorageM ρ α) := by
  intro storage fault failed
  cases failed

theorem throw {fault : Fault} (holds : expected fault) :
    FailsOnly expected (throw fault : StorageM ρ α) := by
  rintro storage _ ⟨⟩
  exact holds

theorem note (entry : LogRecord) : FailsOnly expected (note entry : StorageM ρ Unit) := by
  intro storage fault failed
  cases failed

theorem settle
    {result : Except Fault α} (holds : ∀ fault, result = .error fault → expected fault) :
    FailsOnly expected (settle result : StorageM ρ α) := by
  intro storage fault failed
  rw [run_settle] at failed
  exact holds fault failed

theorem look
    {view : FileStore → Except Fault α}
    (holds : ∀ files fault, view files = .error fault → expected fault) :
    FailsOnly expected (look view : StorageM ρ α) := by
  intro storage fault failed
  rw [run_look] at failed
  exact holds storage.files fault failed

theorem change
    (step : FileStore → Except FileFault FileStore) (holds : ∀ fault, expected (.file fault)) :
    FailsOnly expected (change step : StorageM ρ Unit) := by
  intro storage fault failed
  rw [run_change] at failed
  cases stepped : step storage.files with
  | ok files =>
      rw [stepped] at failed
      cases failed
  | error refused =>
      rw [stepped] at failed
      cases failed
      exact holds refused

theorem draw (next : ρ → α × ρ) : FailsOnly expected (draw next) := by
  intro storage fault failed
  cases failed

theorem bind
    {next : α → StorageM ρ β} (first : FailsOnly expected job)
    (second : ∀ value, FailsOnly expected (next value)) : FailsOnly expected (job >>= next) := by
  intro storage fault failed
  rw [run_bind] at failed
  rcases ran : job.run storage with ⟨result, after⟩
  rw [ran] at failed
  cases result with
  | error refused =>
      cases failed
      exact first storage fault (congrArg Prod.fst ran)
  | ok value => exact second value after fault failed

theorem get_bind
    {next : Storage ρ → StorageM ρ α} (all : ∀ storage, FailsOnly expected (next storage)) :
    FailsOnly expected (get >>= next) := by
  intro storage fault failed
  exact all storage storage fault failed

theorem replaceFile
    (path : Path) (data : List UInt8) (inFiles : ∀ fault, expected (.file fault))
    (inName : ∀ message, expected (.badValue message)) :
    FailsOnly expected (replaceFile path data : StorageM ρ Unit) := by
  refine bind (settle fun fault failed => ?_) fun _ => bind (change _ inFiles) fun _ =>
    change _ inFiles
  rw [Path.withSuffix] at failed
  split at failed
  · cases failed
    exact inName _
  · cases failed

end FailsOnly

end Storage

end QuoteDesk
