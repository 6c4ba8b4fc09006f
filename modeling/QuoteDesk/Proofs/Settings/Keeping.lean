import QuoteDesk.Proofs.Settings.Leaving
import QuoteDesk.Proofs.Settings.Saving

/-!
# Settings survive saving

Saved settings are loaded as they were, by any later store at the same path.  The file has a
token in place of the key, and without the token it is the file of the same settings with any
other key.
-/

namespace QuoteDesk

open FileStore Storage Text Vault

namespace SettingsStore

variable {ρ : Type} {cipher : Cipher ρ} {path directory : Path} {store : SettingsStore}
  {settings : Settings} {strategy secret : String} {token : Option String}
  {name keyName draft : String} {place : List String} {files ready : FileStore}
  {storage : Storage ρ} {environment : Environment}

/-! ## The file without the token -/

theorem toEntries_without_key (settings : Settings) :
    settings.toEntries.without Setting.apiKey.name =
      (Setting.all.filter fun setting => setting.name ≠ Setting.apiKey.name).map fun setting =>
        (setting.name, settings.value setting) := by
  rw [Entries.without, Settings.toEntries, List.filter_map]
  rfl

/-- But for the token, what is stored is the same whatever the key is. -/
theorem storedWith_without_sealed
    (strategy : String) (settings : Settings) (token : Option String) (other : Value) :
    (storedWith strategy settings token).without sealedName =
      storedWith strategy (settings.update .apiKey other) none := by
  have sameOpen : (settings.update .apiKey other).toEntries.without Setting.apiKey.name =
      settings.toEntries.without Setting.apiKey.name := by
    rw [toEntries_without_key, toEntries_without_key]
    refine List.map_congr_left fun setting member => ?_
    have notKey : setting ≠ .apiKey := fun same =>
      of_decide_eq_true (List.mem_filter.mp member).2 (congrArg Setting.name same)
    rw [Settings.value_update, if_neg notKey]
  have openKept : (settings.toEntries.without Setting.apiKey.name).filter
      (fun entry => entry.1 ≠ sealedName) = settings.toEntries.without Setting.apiKey.name := by
    rw [toEntries_without_key]
    refine List.filter_eq_self.mpr fun entry member => ?_
    obtain ⟨setting, -, rfl⟩ := List.mem_map.mp member
    have noSetting : ∀ setting : Setting, setting.name ≠ sealedName := by
      intro setting
      cases setting <;> decide
    exact decide_eq_true (noSetting setting)
  rw [storedWith, storedWith, sameOpen, Entries.without, List.filter_append, List.filter_append,
    openKept]
  cases token <;> rfl

/-! ## Loading what was saved -/

/-- Where neither the run nor the environment says anything, the file decides. -/
theorem run_load_of_file
    {entries : Entries} {key : Option Value} (silent : environment.ownNames = [])
    (holds : Holds store storage.files (.ok entries))
    (givesKey : GivesKey cipher store storage entries (.ok key)) :
    ∃ loaded : Settings, ((load cipher store environment []).run storage).1 = .ok loaded ∧
      ∀ setting, loaded.value setting = (filed entries key setting).getD setting.standard := by
  refine ⟨_, run_load (run_settings holds givesKey), fun setting => ?_⟩
  have noOverride : Settings.overrideValue? [] setting = none := rfl
  rw [Settings.value_override_layers, Settings.environmentValue?_of_silent silent, noOverride,
    value_keyed holds.nodup_names]
  rfl

theorem heldAt_sealed_saved (strategy : String) (settings : Settings) (token : Option String) :
    heldAt ((storedWith strategy settings token).arranged true) sealedName =
      (token.map Value.text).getD .null := by
  rw [heldAt, Entries.valueOf?_arranged (nodup_names_storedWith strategy settings token),
    valueOf?_storedWith_sealed]
  cases token <;> rfl

theorem heldAt_key_saved (strategy : String) (settings : Settings) (token : Option String) :
    heldAt ((storedWith strategy settings token).arranged true) Setting.apiKey.name = .null := by
  rw [heldAt, Entries.valueOf?_arranged (nodup_names_storedWith strategy settings token),
    valueOf?_storedWith_key]
  rfl

section Saved

variable (sited : store.Sited directory name keyName draft)
  (there : storage.files.HasDirectory directory place)
  (tokens : Tokens cipher storage.files (place ++ [keyName]) secret token)
include sited there tokens

/-- The token of a saved file opens as the key. -/
theorem run_decrypt_of_saved (settings : Settings) :
    (decrypt cipher store.vault
      (heldAt ((storedWith cipher.strategy settings token).arranged true) sealedName)).run storage =
        (.ok secret, storage) := by
  rw [heldAt_sealed_saved]
  cases tokens with
  | absent empty =>
      subst empty
      rfl
  | sealed nonempty held opens => exact run_decrypt sited.key there held opens

/-- The entries of a saved file give a load the key that was saved. -/
theorem givesKey_of_saved (settings : Settings) :
    ∃ key, GivesKey cipher store storage
        ((storedWith cipher.strategy settings token).arranged true) (.ok key) ∧
      key.getD (Setting.standard .apiKey) = .text secret := by
  have decrypted := congrArg Prod.fst (run_decrypt_of_saved sited there tokens settings)
  have isSealed := heldAt_sealed_saved cipher.strategy settings token
  cases tokens with
  | absent empty =>
      refine ⟨none, .absent ?_ ?_, congrArg Value.text empty.symm⟩
      · rw [isSealed]
        rfl
      · rw [heldAt_key_saved]
        rfl
  | sealed nonempty held opens =>
      have given : present? (.text secret) = some (.text secret) :=
        if_pos (Value.isTruthy_text_iff.mpr nonempty)
      refine ⟨_, .opened ?_ decrypted, by rw [given]; rfl⟩
      rw [isSealed]
      exact Value.isTruthy_text_iff.mpr opens.nonempty

variable (holds : Holds store storage.files
  (.ok ((storedWith cipher.strategy settings token).arranged true)))
include holds

/-- A load leaves a saved file, and the key of its vault, as they are. -/
theorem load_leaves_saved (environment : Environment) (overrides : Entries) :
    SameButLog ((load cipher store environment overrides).run storage).2 storage := by
  have decrypted := run_decrypt_of_saved sited there tokens settings
  have isSealed := heldAt_sealed_saved cipher.strategy settings token
  cases tokens with
  | absent empty =>
      refine load_leaves_of_absent cipher environment overrides holds ?_ ?_
      · rw [isSealed]
        rfl
      · rw [heldAt_key_saved]
        rfl
  | sealed nonempty held opens =>
      have left := load_leaves_of_sealed cipher environment overrides holds (by
        rw [isSealed]
        exact Value.isTruthy_text_iff.mpr opens.nonempty)
      rw [decrypted] at left
      exact left

/-- What was saved is loaded with all entries in their order. -/
theorem run_load_of_saved
    (secretIs : settings.value .apiKey = .text secret) (silent : environment.ownNames = []) :
    ∃ loaded : Settings, ((load cipher store environment []).run storage).1 = .ok loaded ∧
      ∀ setting, loaded.value setting = (settings.value setting).arranged true := by
  obtain ⟨key, givesKey, keySecret⟩ := givesKey_of_saved sited there tokens settings
  obtain ⟨loaded, ran, values⟩ := run_load_of_file silent holds givesKey
  refine ⟨loaded, ran, fun setting => ?_⟩
  rw [values, filed]
  by_cases isKey : setting = .apiKey
  · subst isKey
    rw [if_pos rfl, keySecret, secretIs, Value.arranged]
    · rintro _ ⟨⟩
    · rintro _ ⟨⟩
  · rw [if_neg isKey, Entries.valueOf?_arranged
      (nodup_names_storedWith cipher.strategy settings token), valueOf?_storedWith_of_ne isKey]
    rfl

end Saved

end SettingsStore

/-! ## Declared types -/

/-- A value of the type that a setting is declared with.  A truth value is a whole number, and
a whole number is a real one; no setting is a mark for no number, and whole numbers are short
enough to be written. -/
inductive Setting.Declares (setting : Setting) : Value → Prop
  | text (s : String) (kind : setting.kind = .text) : Declares setting (.text s)
  | absent (optional : setting.standard = .null) : Declares setting .null
  | flag (b : Bool) (kind : setting.kind = .flag ∨ setting.kind = .whole ∨ setting.kind = .real) :
      Declares setting (.bool b)
  | whole {n : Int} (short : n.natAbs < 10 ^ Number.digitLimit)
      (kind : setting.kind = .whole ∨ setting.kind = .real) : Declares setting (.int n)
  | real {x : Number.Binary64} (number : x ≠ .notANumber) (kind : setting.kind = .real) :
      Declares setting (.float x)
  | mapping {entries : Entries} (names : (entries.map Prod.fst).Nodup)
      (texts : ∀ entry ∈ entries, ∃ s, entry.2 = .text s) (kind : setting.kind = .mapping) :
      Declares setting (.dict entries)

namespace Setting.Declares

variable {setting : Setting} {value : Value}

theorem isJson (declared : setting.Declares value) : value.IsJson := by
  cases declared with
  | text s => exact .text s
  | absent => exact .null
  | flag b => exact .bool b
  | whole short => exact .int short
  | real number => exact .float _
  | mapping names texts =>
      refine .dict names fun entry member => ?_
      obtain ⟨s, same⟩ := texts entry member
      rw [same]
      exact .text s

theorem nestsWithin (declared : setting.Declares value) (room : Nat) :
    value.NestsWithin (room + 1) := by
  cases declared with
  | mapping names texts =>
      refine .dict fun entry member => ?_
      obtain ⟨s, same⟩ := texts entry member
      rw [same]
      exact .flat (by simp) (by simp)
  | _ => exact .flat (by simp) (by simp)

theorem entriesCopyDepth_le
    {entries : Entries} (texts : ∀ entry ∈ entries, ∃ s, entry.2 = .text s) :
    Value.entriesCopyDepth entries ≤ 3 := by
  induction entries with
  | nil => exact Nat.zero_le 3
  | cons entry rest inductionHypothesis =>
      obtain ⟨name, value⟩ := entry
      obtain ⟨⟨s, rfl⟩, others⟩ := List.forall_mem_cons.mp texts
      exact Nat.max_le.mpr ⟨le_rfl, inductionHypothesis others⟩

theorem copyDepth_le (declared : setting.Declares value) :
    value.copyDepth ≤ Settings.copyLimit := by
  cases declared with
  | mapping names texts =>
      calc (Value.dict _).copyDepth
          ≤ 3 + 2 := Nat.add_le_add_right (entriesCopyDepth_le texts) 2
        _ ≤ Settings.copyLimit := by decide
  | _ => exact (by decide : 3 ≤ Settings.copyLimit)

theorem numbers (declared : setting.Declares value) :
    ¬ (Value.float .notANumber).StandsIn value := by
  intro inside
  cases declared with
  | text s => cases inside
  | absent => cases inside
  | flag b => cases inside
  | whole short => cases inside
  | real number =>
      cases inside
      exact number rfl
  | mapping names texts =>
      cases inside with
      | entry member deeper =>
          obtain ⟨s, same⟩ := texts _ member
          rw [same] at deeper
          cases deeper

end Setting.Declares

theorem Setting.declares_standard (setting : Setting) : setting.Declares setting.standard := by
  have tenths : ∀ n ∈ [7, 600, 5, 60, 900],
      Number.Binary64.ofDecimal false n (-1) ≠ .notANumber := by decide +kernel
  cases setting with
  | organization => exact .absent rfl
  | logDir => exact .absent rfl
  | inventoryPath => exact .absent rfl
  | temperature => exact .real (tenths 7 (by decide)) rfl
  | requestTimeout => exact .real (tenths 600 (by decide)) rfl
  | retryMinSeconds => exact .real (tenths 5 (by decide)) rfl
  | retryMaxSeconds => exact .real (tenths 60 (by decide)) rfl
  | turnTimeout => exact .real (tenths 900 (by decide)) rfl
  | maxRetries => exact .whole (by decide +kernel) (.inl rfl)
  | maxInputChars => exact .whole (by decide +kernel) (.inl rfl)
  | maxTokens => exact .whole (by decide +kernel) (.inl rfl)
  | logMaxBytes => exact .whole (by decide +kernel) (.inl rfl)
  | logBackupCount => exact .whole (by decide +kernel) (.inl rfl)
  | debugLogging => exact .flag _ (.inl rfl)
  | logToConsole => exact .flag _ (.inl rfl)
  | defaultHeaders => exact .mapping List.nodup_nil (List.forall_mem_nil _) rfl
  | baseUrl => exact .text _ rfl
  | apiKey => exact .text _ rfl
  | model => exact .text _ rfl

theorem Settings.declares_update
    {settings : Settings} {changed : Setting} {value : Value}
    (declared : ∀ setting : Setting, setting.Declares (settings.value setting))
    (valueDeclared : changed.Declares value) (setting : Setting) :
    setting.Declares ((settings.update changed value).value setting) := by
  rw [value_update]
  by_cases same : setting = changed
  · rw [if_pos same, same]
    exact valueDeclared
  · rw [if_neg same]
    exact declared setting

namespace SettingsStore

variable {ρ : Type} {cipher : Cipher ρ} {path : Path} {store : SettingsStore}
  {settings : Settings} {storage : Storage ρ} {ready : FileStore}

/-- Settings with values of their declared types can be stored. -/
theorem storable_of_declared
    (declared : ∀ setting : Setting, setting.Declares (settings.value setting)) :
    settings.Storable :=
  ⟨fun setting => (declared setting).isJson, fun setting => (declared setting).nestsWithin _,
    Settings.isCopyable_iff.mpr fun setting => (declared setting).copyDepth_le⟩

theorem exists_key_of_declared
    (declared : ∀ setting : Setting, setting.Declares (settings.value setting)) :
    ∃ secret, settings.value .apiKey = .text secret := by
  have keyDeclared := declared .apiKey
  generalize settings.value .apiKey = value at keyDeclared
  cases keyDeclared with
  | text s => exact ⟨s, rfl⟩
  | absent optional => cases optional
  | flag b kind => exact absurd kind (by decide)
  | whole short kind => exact absurd kind (by decide)
  | real number kind => cases kind
  | mapping names texts kind => cases kind

/-! ## Saving and loading -/

/-- The directories of a store can be made, and then its files can be written. -/
structure Usable (store : SettingsStore) (files ready : FileStore) : Prop where
  started : files.node? files.start = some .directory
  made : files.makeDirectories store.path.parent = .ok ready
  free : ready.nodeAt? store.path ≠ some .directory
  ready : store.Ready ready

/-- Settings of the declared types are loaded as they were saved, by every later store at the
path.  The saved file has no field for the key; the token in it opens as the key, and all else
in it is the same whatever the key is. -/
theorem load_save
    (storage : Storage ρ) (lawful : cipher.Lawful) (made : at? path = .ok store) (apart : path.Apart)
    (declared : ∀ setting : Setting, setting.Declares (settings.value setting))
    (usable : store.Usable storage.files ready) :
    ∃ secret after entries, settings.value .apiKey = .text secret ∧
      (save cipher store settings).run storage = (.ok (), after) ∧
      HoldsMapping store after.files entries ∧
      entries.valueOf? Setting.apiKey.name = none ∧
      (∀ other, entries.without sealedName =
        (storedWith cipher.strategy (settings.update .apiKey other) none).arranged true) ∧
      ∀ later : Storage ρ, later.files = after.files →
        ((decrypt cipher store.vault (heldAt entries sealedName)).run later).1 = .ok secret ∧
        ∀ environment : Environment, environment.ownNames = [] →
          ∃ loaded : Settings, ((load cipher store environment []).run later).1 = .ok loaded ∧
            ∀ setting, (loaded.value setting).same (settings.value setting) = true := by
  obtain ⟨name, keyName, draft, sited⟩ := exists_sited made apart
  obtain ⟨secret, secretIs⟩ := exists_key_of_declared declared
  have storable := storable_of_declared declared
  have directoryMade : storage.files.makeDirectories path.parent = .ok ready := by
    rw [← path_of_at? made]
    exact usable.made
  obtain ⟨place, there⟩ := exists_hasDirectory_of_makeDirectories usable.started directoryMade
  have free : ready.node? (place ++ [name]) ≠ some .directory := by
    rw [← there.nodeAt?_child sited.settings.down, ← sited.settings.path_eq]
    exact usable.free
  obtain ⟨token, after, saved, afterThere, tokens, held⟩ :=
    run_save sited { storage with files := ready } lawful storable secretIs there free usable.ready
  have names := nodup_names_storedWith cipher.strategy settings token
  refine ⟨secret, after, _, secretIs, ?_, held, ?_, fun other => ?_, fun later sameFiles => ?_⟩
  · rw [run_save_of_made sited storable secretIs directoryMade there, saved]
  · rw [Entries.valueOf?_arranged names, valueOf?_storedWith_key]
    rfl
  · rw [Entries.without_arranged names, storedWith_without_sealed cipher.strategy settings token other]
  · rw [← sameFiles] at afterThere tokens held
    refine ⟨?_, fun environment silent => ?_⟩
    · rw [run_decrypt_of_saved sited afterThere tokens]
    · obtain ⟨loaded, ran, values⟩ :=
        run_load_of_saved sited afterThere tokens held.holds secretIs silent
      refine ⟨loaded, ran, fun setting => ?_⟩
      rw [values]
      exact Value.same_arranged (declared setting).isJson (declared setting).numbers true

/-- The standard settings with a key are saved over a file that is not UTF-8. -/
theorem load_save_over_undecodable_file :
    ∃ after, ∃ loaded : Settings,
      (save Fernet.cipher ⟨⟨1, ["settings.json"]⟩, ⟨⟨1, ["settings.key"]⟩⟩⟩
          (Settings.standard.update .apiKey (.text "sk-1"))).run
        ⟨⟨[], [(["settings.json"], .file [0xFF])]⟩, ⟨[], 0, 0⟩, []⟩ = (.ok (), after) ∧
      ((load Fernet.cipher ⟨⟨1, ["settings.json"]⟩, ⟨⟨1, ["settings.key"]⟩⟩⟩ [] []).run
        after).1 = .ok loaded ∧
      (loaded.value .apiKey).same (.text "sk-1") = true := by
  have declared : ∀ setting : Setting, setting.Declares
      ((Settings.standard.update .apiKey (.text "sk-1")).value setting) :=
    Settings.declares_update Setting.declares_standard (.text "sk-1" rfl)
  have apart : Path.Apart ⟨1, ["settings.json"]⟩ := Path.apart_of_name rfl
  have usable : Usable ⟨⟨1, ["settings.json"]⟩, ⟨⟨1, ["settings.key"]⟩⟩⟩
      ⟨[], [(["settings.json"], .file [0xFF])]⟩ ⟨[], [(["settings.json"], .file [0xFF])]⟩ :=
    { started := rfl
      made := rfl
      free := by decide
      ready := ⟨fun draft made => by cases made; decide, .inl (by decide)⟩ }
  obtain ⟨secret, after, entries, secretIs, saved, -, -, -, kept⟩ :=
    load_save ⟨⟨[], [(["settings.json"], .file [0xFF])]⟩, ⟨[], 0, 0⟩, []⟩ Fernet.lawful rfl apart
      declared usable
  obtain ⟨loaded, ran, same⟩ := (kept after rfl).2 [] Settings.ownNames_nil
  exact ⟨after, loaded, saved, ran, same .apiKey⟩

end SettingsStore

end QuoteDesk
