import QuoteDesk.Proofs.Settings.Migrating

/-!
# Loading again and again

What a load is told by the command line and by the environment never reaches the file.  The
first load decides about an open key, by the files alone, and no later load changes the file.
-/

namespace QuoteDesk

open FileStore Storage Text Vault

namespace SettingsStore

variable {ρ : Type} {cipher : Cipher ρ} {path directory : Path} {store : SettingsStore}
  {name keyName draft secret : String} {place : List String} {files : FileStore}
  {storage other : Storage ρ} {entries : Entries}

/-- The storage after loads, one after the other.  A load that fails ends only itself. -/
def afterLoads (cipher : Cipher ρ) (store : SettingsStore) (storage : Storage ρ) :
    List (Environment × Entries) → Storage ρ
  | [] => storage
  | (environment, overrides) :: rest =>
      afterLoads cipher store ((load cipher store environment overrides).run storage).2 rest

/-- What every load keeps is kept by any number of loads. -/
theorem afterLoads_keeps
    (kept : FileStore → Prop)
    (step : ∀ (storage : Storage ρ) environment overrides, kept storage.files →
      kept ((load cipher store environment overrides).run storage).2.files)
    (loads : List (Environment × Entries)) (start : kept storage.files) :
    kept (afterLoads cipher store storage loads).files := by
  induction loads generalizing storage with
  | nil => exact start
  | cons told rest inductionHypothesis =>
      exact inductionHypothesis (step storage told.1 told.2 start)

/-! ## The same randomness -/

/-- Loads of the same files with the same randomness leave the same files, whatever they are
told. -/
theorem sameButLog_load_load
    (same : SameButLog storage other) (told otherTold : Environment × Entries) :
    SameButLog ((load cipher store told.1 told.2).run storage).2
      ((load cipher store otherTold.1 otherTold.2).run other).2 := by
  obtain ⟨held, holds⟩ := exists_holds store storage.files
  have otherHolds : Holds store other.files held := by
    rw [← same.files]
    exact holds
  cases held with
  | error fault =>
      exact ((load_leaves_of_refused cipher told.1 told.2 holds).trans same).trans
        (load_leaves_of_refused cipher otherTold.1 otherTold.2 otherHolds).symm
  | ok entries =>
      cases isSealed : (heldAt entries sealedName).isTruthy with
      | true =>
          have opening := (passesOverLog_decrypt cipher store.vault (heldAt entries sealedName) same).2
          exact ((load_leaves_of_sealed cipher told.1 told.2 holds isSealed).trans opening).trans
            (load_leaves_of_sealed cipher otherTold.1 otherTold.2 otherHolds isSealed).symm
      | false =>
          cases isOpen : (heldAt entries Setting.apiKey.name).isTruthy with
          | true =>
              have saving := (passesOverLog_save cipher store (withOpenKey entries) same).2
              exact ((load_leaves_of_open cipher told.1 told.2 holds isSealed isOpen).trans
                saving).trans
                  (load_leaves_of_open cipher otherTold.1 otherTold.2 otherHolds isSealed isOpen).symm
          | false =>
              exact ((load_leaves_of_absent cipher told.1 told.2 holds isSealed isOpen).trans
                same).trans
                  (load_leaves_of_absent cipher otherTold.1 otherTold.2 otherHolds isSealed isOpen).symm

theorem sameButLog_afterLoads
    (same : SameButLog storage other)
    (loads : List ((Environment × Entries) × (Environment × Entries))) :
    SameButLog (afterLoads cipher store storage (loads.map Prod.fst))
      (afterLoads cipher store other (loads.map Prod.snd)) := by
  induction loads generalizing storage other with
  | nil => exact same
  | cons told rest inductionHypothesis =>
      exact inductionHypothesis (sameButLog_load_load same told.1 told.2)

/-! ## Files that stay -/

/-- A file that no load changes.  Saving it with its open key fails: it cannot be copied, the key is
no text, or the files are not ready. -/
inductive Stays (store : SettingsStore) (files : FileStore) : Prop
  | refused {fault : Fault} (refused : Holds store files (.error fault))
  | keyless {entries : Entries} (holds : Holds store files (.ok entries))
      (notSealed : (heldAt entries sealedName).isTruthy = false)
      (notOpen : (heldAt entries Setting.apiKey.name).isTruthy = false)
  | sealed {entries : Entries} (held : HoldsMapping store files entries)
      (isSealed : (heldAt entries sealedName).isTruthy = true)
  | uncopied {entries : Entries} (held : HoldsMapping store files entries)
      (notSealed : (heldAt entries sealedName).isTruthy = false)
      (isOpen : (heldAt entries Setting.apiKey.name).isTruthy = true)
      (deep : (withOpenKey entries).isCopyable = false)
  | hindered {entries : Entries} (held : HoldsMapping store files entries)
      (notSealed : (heldAt entries sealedName).isTruthy = false)
      (isOpen : (heldAt entries Setting.apiKey.name).isTruthy = true)
      (copies : (withOpenKey entries).isCopyable = true)
      (hindered : (∀ s, heldAt entries Setting.apiKey.name ≠ .text s) ∨ ¬ store.Ready files)

theorem Holds.mapping_of_truthy {key : String}
    (holds : Holds store files (.ok entries)) (truthy : (heldAt entries key).isTruthy = true) :
    HoldsMapping store files entries := by
  cases holds with
  | absent => cases truthy
  | noMapping => cases truthy
  | malformed => cases truthy
  | mapping there read json => exact ⟨there, _, read, json⟩

/-- A file stays unless it has an open key alone, which is a text that can be sealed. -/
theorem stays_or_open (store : SettingsStore) (files : FileStore) :
    Stays store files ∨ ∃ entries secret, HoldsMapping store files entries ∧
      heldAt entries Setting.apiKey.name = .text secret ∧ secret ≠ "" ∧
      (heldAt entries sealedName).isTruthy = false ∧ (withOpenKey entries).isCopyable = true ∧
      store.Ready files := by
  obtain ⟨held, holds⟩ := exists_holds store files
  cases held with
  | error fault => exact .inl (.refused holds)
  | ok entries =>
      cases isSealed : (heldAt entries sealedName).isTruthy with
      | true => exact .inl (.sealed (holds.mapping_of_truthy isSealed) isSealed)
      | false =>
          cases isOpen : (heldAt entries Setting.apiKey.name).isTruthy with
          | false => exact .inl (.keyless holds isSealed isOpen)
          | true =>
              have mapping := holds.mapping_of_truthy isOpen
              cases copies : (withOpenKey entries).isCopyable with
              | false => exact .inl (.uncopied mapping isSealed isOpen copies)
              | true =>
                  by_cases hindered :
                      (∀ s, heldAt entries Setting.apiKey.name ≠ .text s) ∨ ¬ store.Ready files
                  · exact .inl (.hindered mapping isSealed isOpen copies hindered)
                  · rw [not_or, not_not] at hindered
                    obtain ⟨isText, ready⟩ := hindered
                    obtain ⟨secret, plain⟩ := not_forall_not.mp isText
                    refine .inr ⟨entries, secret, mapping, plain, ?_, isSealed, copies, ready⟩
                    rw [plain] at isOpen
                    exact Value.isTruthy_text_iff.mp isOpen

/-! ## Saving that fails -/

theorem run_save_of_unsealed
    {settings : Settings} {after : Storage ρ} {fault : Fault}
    (copies : settings.isCopyable = true) (isSealed : (settings.value .apiKey).isTruthy = true)
    (refused : (encrypt cipher store.vault (settings.value .apiKey)).run storage =
      (.error fault, after)) :
    (save cipher store settings).run storage = (.error fault, after) :=
  run_save_of_refused (run_stored_of_encrypt copies isSealed refused)

section Sited

variable (sited : store.Sited directory name keyName draft)
include sited

/-- Where a directory is in the way of the draft, the file is not reached. -/
theorem spares_save_of_directory
    (there : storage.files.HasDirectory directory place)
    (taken : storage.files.node? (place ++ [draft]) = some .directory)
    (cipher : Cipher ρ) (settings : Settings) :
    Spares [place ++ [keyName], place ++ [draft]] storage.files
      ((save cipher store settings).run storage).2.files := by
  have spares : Spares [place ++ [keyName], place ++ [draft]] storage.files
      ((stored cipher store settings).run storage).2.files :=
    confined_stored sited cipher settings storage there
  rcases ran : (stored cipher store settings).run storage with ⟨fault | entries, after⟩
  · rw [ran] at spares
    rw [run_save_of_refused ran]
    exact spares
  · rw [ran] at spares
    have afterThere := there.of_keeps spares.keeps
    have afterTaken := (spares.directory_iff _).mpr taken
    unfold save
    rw [run_bind, ran]
    dsimp only
    rw [run_bind, run_settle]
    cases fileText entries with
    | error fault => exact spares
    | ok text =>
        dsimp only
        rw [run_bind, run_change, sited.settings.parent_eq, afterThere.makeDirectories]
        dsimp only
        rw [run_bind, run_replaceFile_of_directory sited.settings afterThere afterTaken]
        exact spares

/-- Where the key is no text, it is not sealed, and the file is not reached. -/
theorem spares_save_of_other
    {settings : Settings} (there : storage.files.HasDirectory directory place)
    (copies : settings.isCopyable = true) (isSealed : (settings.value .apiKey).isTruthy = true)
    (other : ∀ s, settings.value .apiKey ≠ .text s) (cipher : Cipher ρ) :
    Spares [place ++ [keyName], place ++ [draft]] storage.files
      ((save cipher store settings).run storage).2.files := by
  have spares : Spares [place ++ [keyName], place ++ [draft]] storage.files
      ((encrypt cipher store.vault (settings.value .apiKey)).run storage).2.files :=
    confined_encrypt sited.key cipher _ storage there
  obtain ⟨fault, refused⟩ := exists_fault_of_encrypt_other isSealed other cipher store.vault storage
  rcases ran : (encrypt cipher store.vault (settings.value .apiKey)).run storage with
    ⟨result, after⟩
  rw [ran] at refused spares
  dsimp only at refused
  subst refused
  rw [run_save_of_unsealed copies isSealed ran]
  exact spares

/-- Where something else lies in the place of the vault's key, nothing is saved. -/
theorem exists_fault_of_save
    {settings : Settings} (there : storage.files.HasDirectory directory place)
    (copies : settings.isCopyable = true) (secretIs : settings.value .apiKey = .text secret)
    (nonempty : secret ≠ "")
    (found : storage.files.node? (place ++ [keyName]) ≠ none)
    (noKey : ∀ key, ¬ HoldsKey storage.files (place ++ [keyName]) key) (cipher : Cipher ρ) :
    ∃ fault, (save cipher store settings).run storage = (.error fault, storage) := by
  obtain ⟨fault, refused⟩ := exists_fault_of_run_loadKey sited.key there
    (Option.isSome_iff_ne_none.mpr found) noKey cipher
  have unsealed := run_encrypt_of_refused nonempty refused
  rw [← secretIs] at unsealed
  have isSealed : (settings.value .apiKey).isTruthy = true := by
    rwa [secretIs, Value.isTruthy_text_iff]
  exact ⟨fault, run_save_of_unsealed copies isSealed unsealed⟩

/-- What is in the way of saving stays there. -/
theorem spares_save_of_hindered
    (there : storage.files.HasDirectory directory place)
    (isOpen : (heldAt entries Setting.apiKey.name).isTruthy = true)
    (copies : (withOpenKey entries).isCopyable = true)
    (hindered : (∀ s, heldAt entries Setting.apiKey.name ≠ .text s) ∨ ¬ store.Ready storage.files)
    (cipher : Cipher ρ) :
    Spares [place ++ [keyName], place ++ [draft]] storage.files
        ((save cipher store (withOpenKey entries)).run storage).2.files ∧
      ((∀ s, heldAt entries Setting.apiKey.name ≠ .text s) ∨
        ¬ store.Ready ((save cipher store (withOpenKey entries)).run storage).2.files) := by
  have keyIs := key_withOpenKey entries
  by_cases other : ∀ s, heldAt entries Setting.apiKey.name ≠ .text s
  · refine ⟨?_, .inl other⟩
    rw [← keyIs] at isOpen other
    exact spares_save_of_other sited there copies isOpen other cipher
  · have notReady := hindered.resolve_left other
    by_cases taken : storage.files.node? (place ++ [draft]) = some .directory
    · have spares := spares_save_of_directory sited there taken cipher (withOpenKey entries)
      refine ⟨spares, .inr fun ready => ?_⟩
      exact ((ready_iff sited (there.of_keeps spares.keeps)).mp ready).1
        ((spares.directory_iff _).mpr taken)
    · have noKey : ¬ (storage.files.node? (place ++ [keyName]) = none ∨
          ∃ key, HoldsKey storage.files (place ++ [keyName]) key) :=
        fun key => notReady ((ready_iff sited there).mpr ⟨taken, key⟩)
      rw [not_or, not_exists] at noKey
      obtain ⟨secret, plain⟩ := not_forall_not.mp other
      rw [plain, Value.isTruthy_text_iff] at isOpen
      rw [plain] at keyIs
      obtain ⟨fault, ran⟩ :=
        exists_fault_of_save sited there copies keyIs isOpen noKey.1 noKey.2 cipher
      rw [ran]
      exact ⟨.rfl, .inr notReady⟩

/-- A file that stays is left as it is by a load, and stays. -/
theorem stays_load
    (stays : Stays store storage.files) (cipher : Cipher ρ) (environment : Environment)
    (overrides : Entries) :
    ((load cipher store environment overrides).run storage).2.files.nodeAt? store.path =
        storage.files.nodeAt? store.path ∧
      Stays store ((load cipher store environment overrides).run storage).2.files := by
  cases stays with
  | refused refused =>
      rw [(load_leaves_of_refused cipher environment overrides refused).files]
      exact ⟨rfl, .refused refused⟩
  | keyless holds notSealed notOpen =>
      rw [(load_leaves_of_absent cipher environment overrides holds notSealed notOpen).files]
      exact ⟨rfl, .keyless holds notSealed notOpen⟩
  | sealed held isSealed =>
      have same := nodeAt?_load_of_sealed sited held isSealed cipher environment overrides
      exact ⟨same, .sealed (held.of_nodeAt? same) isSealed⟩
  | uncopied held notSealed isOpen deep =>
      rw [(load_leaves_of_uncopied held isOpen notSealed deep environment overrides).files]
      exact ⟨rfl, .uncopied held notSealed isOpen deep⟩
  | hindered held notSealed isOpen copies hindered =>
      obtain ⟨place, data, there, -⟩ := held.exists_place sited
      obtain ⟨spares, hinderedAfter⟩ :=
        spares_save_of_hindered sited there isOpen copies hindered cipher
      rw [(load_leaves_of_open cipher environment overrides held.holds notSealed isOpen).files]
      have same := nodeAt?_of_spares sited there spares
      exact ⟨same, .hindered (held.of_nodeAt? same) notSealed isOpen copies hinderedAfter⟩

end Sited

/-! ## Any randomness -/

/-- Two files of settings have the same content.  Tokens are compared by what they open as. -/
inductive SameContent (cipher : Cipher ρ) (store : SettingsStore) (files others : FileStore) : Prop
  | same (same : files.nodeAt? store.path = others.nodeAt? store.path)
  | sameSecret {entries otherEntries : Entries} {secret : String}
      (held : HoldsMapping store files entries) (otherHeld : HoldsMapping store others otherEntries)
      (sameOpen : entries.without sealedName = otherEntries.without sealedName)
      (opens : ∀ storage : Storage ρ, storage.files = files →
        ((decrypt cipher store.vault (heldAt entries sealedName)).run storage).1 = .ok secret)
      (otherOpens : ∀ storage : Storage ρ, storage.files = others →
        ((decrypt cipher store.vault (heldAt otherEntries sealedName)).run storage).1 =
          .ok secret) : SameContent cipher store files others

/-- A file that one load leaves as it is stays through all loads. -/
theorem nodeAt?_afterLoads_of_stays
    (sited : store.Sited directory name keyName draft) (stays : Stays store storage.files)
    (cipher : Cipher ρ) (loads : List (Environment × Entries)) :
    (afterLoads cipher store storage loads).files.nodeAt? store.path =
      storage.files.nodeAt? store.path := by
  let kept (files : FileStore) : Prop :=
    files.nodeAt? store.path = storage.files.nodeAt? store.path ∧ Stays store files
  have step : ∀ (current : Storage ρ) environment overrides, kept current.files →
      kept ((load cipher store environment overrides).run current).2.files := by
    rintro current environment overrides ⟨same, staysNow⟩
    obtain ⟨sameNext, staysNext⟩ := stays_load sited staysNow cipher environment overrides
    exact ⟨sameNext.trans same, staysNext⟩
  exact (afterLoads_keeps kept step loads ⟨rfl, stays⟩).1

/-- After an open key was sealed by the first of several loads, the others leave the file. -/
theorem afterLoads_of_open
    (sited : store.Sited directory name keyName draft) (lawful : cipher.Lawful)
    (held : HoldsMapping store storage.files entries)
    (plain : heldAt entries Setting.apiKey.name = .text secret) (nonempty : secret ≠ "")
    (notSealed : (heldAt entries sealedName).isTruthy = false)
    (copies : (withOpenKey entries).isCopyable = true) (ready : store.Ready storage.files)
    (first : Environment × Entries)
    (rest : List (Environment × Entries)) :
    ∃ token, HoldsMapping store (afterLoads cipher store storage (first :: rest)).files
        ((storedWith cipher.strategy (withOpenKey entries) token).arranged true) ∧
      ∀ later : Storage ρ,
        later.files = (afterLoads cipher store storage (first :: rest)).files →
          ((decrypt cipher store.vault (heldAt
            ((storedWith cipher.strategy (withOpenKey entries) token).arranged true)
              sealedName)).run later).1 = .ok secret := by
  obtain ⟨place, token, last, -, lastThere, tokens, lastHeld, left⟩ :=
    exists_saved_of_open sited lawful held plain nonempty notSealed copies ready
  have step : ∀ (current : Storage ρ) environment overrides, current.files = last.files →
      ((load cipher store environment overrides).run current).2.files = last.files := by
    intro current environment overrides same
    rw [← same] at lastThere tokens lastHeld
    have stays := load_leaves_saved sited lastThere tokens lastHeld.holds environment overrides
    exact stays.files.trans same
  have final : (afterLoads cipher store storage (first :: rest)).files = last.files :=
    afterLoads_keeps (· = last.files) step rest (left first.1 first.2).files
  rw [final]
  refine ⟨token, lastHeld, fun later same => ?_⟩
  rw [← same] at lastThere tokens
  rw [run_decrypt_of_saved sited lastThere tokens]

/-- Two runs of loads from the same files, each told what it may be by its command line and
its environment.  With the same randomness they leave the same files; with a lawful cipher
and any randomness, the same settings in the file. -/
theorem loads_leave_same_content
    (cipher : Cipher ρ) (store : SettingsStore) (storage other : Storage ρ)
    (sameFiles : storage.files = other.files)
    (loads : List ((Environment × Entries) × (Environment × Entries))) :
    (storage.random = other.random →
      (afterLoads cipher store storage (loads.map Prod.fst)).files =
        (afterLoads cipher store other (loads.map Prod.snd)).files) ∧
    ∀ path, cipher.Lawful → at? path = .ok store → path.Apart →
      SameContent cipher store (afterLoads cipher store storage (loads.map Prod.fst)).files
        (afterLoads cipher store other (loads.map Prod.snd)).files := by
  refine ⟨fun sameRandom => (sameButLog_afterLoads ⟨sameFiles, sameRandom⟩ loads).files, ?_⟩
  intro path lawful made apart
  obtain ⟨name, keyName, draft, sited⟩ := exists_sited made apart
  rcases stays_or_open store storage.files with stays | ⟨entries, secret, held, plain, isOpen⟩
  · have otherStays : Stays store other.files := by
      rw [← sameFiles]
      exact stays
    refine .same ?_
    rw [nodeAt?_afterLoads_of_stays sited stays, nodeAt?_afterLoads_of_stays sited otherStays,
      sameFiles]
  · obtain ⟨nonempty, notSealed, copies, ready⟩ := isOpen
    cases loads with
    | nil => exact .same (congrArg (FileStore.nodeAt? · store.path) sameFiles)
    | cons told rest =>
        obtain ⟨token, tokenHeld, opens⟩ := afterLoads_of_open sited lawful held plain nonempty
          notSealed copies ready told.1 (rest.map Prod.fst)
        rw [sameFiles] at held ready
        obtain ⟨otherToken, otherHeld, otherOpens⟩ := afterLoads_of_open sited lawful held plain
          nonempty notSealed copies ready told.2 (rest.map Prod.snd)
        refine .sameSecret tokenHeld otherHeld ?_ opens otherOpens
        rw [Entries.without_arranged (nodup_names_storedWith _ _ _),
          Entries.without_arranged (nodup_names_storedWith _ _ _),
          storedWith_without_sealed _ _ _ .null, storedWith_without_sealed _ _ _ .null]

/-- A key of the environment and a model of the command line are not written beside the open
key of the file, with the same randomness or another. -/
theorem run_values_not_written :
    (afterLoads Fernet.cipher rootStore (storing "\x7b\"api_key\":\"sk-plain\"\x7d")
        [([("QUOTEWISE_API_KEY", "sk-run")], [])]).files =
      (afterLoads Fernet.cipher rootStore (storing "\x7b\"api_key\":\"sk-plain\"\x7d")
        [([], [("model", .text "m")])]).files ∧
    SameContent Fernet.cipher rootStore
      (afterLoads Fernet.cipher rootStore (storing "\x7b\"api_key\":\"sk-plain\"\x7d")
        [([("QUOTEWISE_API_KEY", "sk-run")], [])]).files
      (afterLoads Fernet.cipher rootStore
        { storing "\x7b\"api_key\":\"sk-plain\"\x7d" with random := ⟨[1], 0, 0⟩ }
        [([], [("model", .text "m")])]).files := by
  have made : at? ⟨1, ["settings.json"]⟩ = .ok rootStore := rfl
  let file := storing "\x7b\"api_key\":\"sk-plain\"\x7d"
  have sameRandom := loads_leave_same_content Fernet.cipher rootStore file file rfl
    [(([("QUOTEWISE_API_KEY", "sk-run")], []), ([], [("model", .text "m")]))]
  have otherRandom := loads_leave_same_content Fernet.cipher rootStore file
    { file with random := ⟨[1], 0, 0⟩ } rfl
    [(([("QUOTEWISE_API_KEY", "sk-run")], []), ([], [("model", .text "m")]))]
  exact ⟨sameRandom.1 rfl, otherRandom.2 _ Fernet.lawful made (Path.apart_of_name rfl)⟩

end SettingsStore

end QuoteDesk
