import QuoteDesk.Proofs.Settings.Keeping

/-!
# Taking an open key out of the file

A file with an open key is saved anew by the load that reads it, and from then on it holds a
token only.  But an open key beside a sealed one is passed over, whether the sealed one opens
or not, and stays in the file.
-/

namespace QuoteDesk

open FileStore Storage Text Vault

namespace SettingsStore

variable {ρ : Type} {cipher : Cipher ρ} {path directory : Path} {store : SettingsStore}
  {name keyName draft secret : String} {place : List String} {files : FileStore}
  {storage : Storage ρ} {entries : Entries}

/-! ## Settings of a file -/

theorem key_withOpenKey (entries : Entries) :
    (withOpenKey entries).value .apiKey = heldAt entries Setting.apiKey.name := by
  rw [withOpenKey, Settings.value_update, if_pos rfl]

theorem value_withOpenKey (names : (entries.map Prod.fst).Nodup) (setting : Setting) :
    (withOpenKey entries).value setting =
      if setting = .apiKey then heldAt entries Setting.apiKey.name
      else (entries.valueOf? setting.name).getD setting.standard := by
  rw [withOpenKey, Settings.value_update, Settings.value_statedSettings names]
  by_cases isKey : setting = .apiKey
  · rw [if_pos isKey, if_pos isKey]
  · rw [if_neg isKey, if_neg isKey, if_neg isKey]

theorem HoldsMapping.isJson (held : HoldsMapping store files entries) :
    (Value.dict entries).IsJson := by
  obtain ⟨-, text, -, json⟩ := held
  exact Json.isJson_of_read json

theorem HoldsMapping.nests (held : HoldsMapping store files entries) :
    ∀ entry ∈ entries, entry.2.NestsWithin (Json.depthLimit - 1) := by
  obtain ⟨-, text, -, json⟩ := held
  exact (Json.nestsWithin_of_read json).of_mem_dict

/-- What was read can be written, if it can be copied. -/
theorem HoldsMapping.storable
    (held : HoldsMapping store files entries)
    (plain : heldAt entries Setting.apiKey.name = .text secret)
    (copies : (withOpenKey entries).isCopyable = true) : (withOpenKey entries).Storable := by
  have names := held.isJson.nodup_names
  have each : ∀ {fits : Value → Prop}, (∀ s, fits (.text s)) →
      (∀ setting : Setting, fits setting.standard) → (∀ entry ∈ entries, fits entry.2) →
        ∀ setting, fits ((withOpenKey entries).value setting) := by
    intro fits texts standards all setting
    rw [value_withOpenKey names, plain]
    by_cases isKey : setting = .apiKey
    · rw [if_pos isKey]
      exact texts secret
    · rw [if_neg isKey]
      cases found : entries.valueOf? setting.name with
      | none => exact standards setting
      | some value => exact all _ (Entries.mem_of_lookup found)
  exact ⟨each .text (fun setting => setting.declares_standard.isJson) held.isJson.of_mem_dict,
    each (fun s => .flat (by simp) (by simp))
      (fun setting => setting.declares_standard.nestsWithin _) held.nests, copies⟩

/-! ## Where the file lies -/

section Sited

variable (sited : store.Sited directory name keyName draft)
include sited

theorem HoldsMapping.exists_place (held : HoldsMapping store files entries) :
    ∃ place data, files.HasDirectory directory place ∧
      files.node? (place ++ [name]) = some (.file data) := by
  obtain ⟨-, text, read, -⟩ := held
  obtain ⟨data, bytes, -⟩ := exists_of_bind_eq_ok read
  cases readRaw : files.read store.path with
  | error fault =>
      rw [readRaw] at bytes
      cases bytes
  | ok raw =>
      rw [sited.settings.path_eq] at readRaw
      obtain ⟨reached, located, -⟩ := exists_of_read readRaw
      obtain ⟨place, there⟩ := exists_hasDirectory located
      exact ⟨place, raw, there, there.node?_of_read_child sited.settings.down readRaw⟩

/-- What touches only the key file and the draft leaves the file of settings. -/
theorem nodeAt?_of_spares
    {after : FileStore} (there : files.HasDirectory directory place)
    (spares : Spares [place ++ [keyName], place ++ [draft]] files after) :
    after.nodeAt? store.path = files.nodeAt? store.path := by
  have spared : place ++ [name] ∉ [place ++ [keyName], place ++ [draft]] := by
    simp [sited.distinct, sited.settings.distinct]
  rw [sited.settings.path_eq, there.nodeAt?_child sited.settings.down,
    (there.of_keeps spares.keeps).nodeAt?_child sited.settings.down, spares.node? _ spared]

/-- Opening a sealed key leaves the file as it is. -/
theorem nodeAt?_load_of_sealed
    (held : HoldsMapping store storage.files entries)
    (isSealed : (heldAt entries sealedName).isTruthy = true)
    (cipher : Cipher ρ) (environment : Environment) (overrides : Entries) :
    ((load cipher store environment overrides).run storage).2.files.nodeAt? store.path =
      storage.files.nodeAt? store.path := by
  obtain ⟨place, data, there, -⟩ := held.exists_place sited
  rw [(load_leaves_of_sealed cipher environment overrides held.holds isSealed).files]
  exact nodeAt?_of_spares sited there (confined_decrypt sited.key cipher _ storage there)

/-- A load that finds an open key saves the settings with it, whatever else it is told. -/
theorem exists_saved_of_open
    (lawful : cipher.Lawful) (held : HoldsMapping store storage.files entries)
    (plain : heldAt entries Setting.apiKey.name = .text secret) (nonempty : secret ≠ "")
    (notSealed : (heldAt entries sealedName).isTruthy = false)
    (copies : (withOpenKey entries).isCopyable = true) (ready : store.Ready storage.files) :
    ∃ place token last, (save cipher store (withOpenKey entries)).run storage = (.ok (), last) ∧
      last.files.HasDirectory directory place ∧
      Tokens cipher last.files (place ++ [keyName]) secret token ∧
      HoldsMapping store last.files
        ((storedWith cipher.strategy (withOpenKey entries) token).arranged true) ∧
      ∀ environment overrides,
        SameButLog ((load cipher store environment overrides).run storage).2 last := by
  have isOpen : (heldAt entries Setting.apiKey.name).isTruthy = true := by
    rwa [plain, Value.isTruthy_text_iff]
  have secretIs := (key_withOpenKey entries).trans plain
  obtain ⟨place, data, there, found⟩ := held.exists_place sited
  have free : storage.files.node? (place ++ [name]) ≠ some .directory := by
    rw [found]
    rintro ⟨⟩
  obtain ⟨token, last, saved, lastThere, tokens, lastHeld⟩ :=
    run_save sited storage lawful (held.storable plain copies) secretIs there free ready
  refine ⟨place, token, last, saved, lastThere, tokens, lastHeld, fun environment overrides => ?_⟩
  have left := load_leaves_of_open cipher environment overrides held.holds notSealed isOpen
  rw [saved] at left
  exact left

end Sited

/-! ## Taking the key out -/

/-- A load that is told nothing takes a key, and leaves a file with a token for it and no field
for the key.  A later one gives the same settings, with the entries of mappings in their order. -/
def Migrates (cipher : Cipher ρ) (store : SettingsStore) (storage : Storage ρ) (taken : String) :
    Prop :=
  ∀ environment : Environment, environment.ownNames = [] →
    ∃ settings : Settings, ∃ after entries,
      (load cipher store environment []).run storage = (.ok settings, after) ∧
      settings.value .apiKey = .text taken ∧
      HoldsMapping store after.files entries ∧ entries.valueOf? Setting.apiKey.name = none ∧
      ∀ later : Storage ρ, later.files = after.files →
        ((decrypt cipher store.vault (heldAt entries sealedName)).run later).1 = .ok taken ∧
        ∀ laterEnvironment : Environment, laterEnvironment.ownNames = [] →
          ∃ again : Settings, ((load cipher store laterEnvironment []).run later).1 = .ok again ∧
            ∀ setting, again.value setting = (settings.value setting).arranged true

/-- An open key beside no sealed one is taken out when the settings can be copied. -/
theorem migrates_of_open
    (lawful : cipher.Lawful) (sited : store.Sited directory name keyName draft)
    (held : HoldsMapping store storage.files entries)
    (plain : heldAt entries Setting.apiKey.name = .text secret) (nonempty : secret ≠ "")
    (notSealed : (heldAt entries sealedName).isTruthy = false)
    (copies : (withOpenKey entries).isCopyable = true) (ready : store.Ready storage.files) :
    Migrates cipher store storage secret := by
  obtain ⟨place, token, last, saved, lastThere, tokens, lastHeld, left⟩ :=
    exists_saved_of_open sited lawful held plain nonempty notSealed copies ready
  have isOpen : (heldAt entries Setting.apiKey.name).isTruthy = true := by
    rwa [plain, Value.isTruthy_text_iff]
  have names := held.isJson.nodup_names
  have secretIs := (key_withOpenKey entries).trans plain
  have wasSaved : ((save cipher store (withOpenKey entries)).run storage).1 = .ok () := by
    rw [saved]
  intro environment silent
  obtain ⟨settings, loaded, values⟩ :=
    run_load_of_file silent held.holds (.plain notSealed isOpen (.inl wasSaved))
  have sameValues : ∀ setting, settings.value setting = (withOpenKey entries).value setting := by
    intro setting
    rw [values, value_withOpenKey names, filed]
    by_cases isKey : setting = .apiKey
    · rw [if_pos isKey, if_pos isKey]
      rfl
    · rw [if_neg isKey, if_neg isKey]
  have sameAfter := left environment []
  rcases ran : (load cipher store environment []).run storage with ⟨result, after⟩
  rw [ran] at loaded sameAfter
  dsimp only at loaded
  subst loaded
  let kept := (storedWith cipher.strategy (withOpenKey entries) token).arranged true
  refine ⟨settings, after, kept, rfl, ?_, ?_, ?_, fun later sameFiles => ?_⟩
  · rw [sameValues, secretIs]
  · rw [sameAfter.files]
    exact lastHeld
  · rw [Entries.valueOf?_arranged (nodup_names_storedWith _ _ _), valueOf?_storedWith_key]
    rfl
  · rw [← sameAfter.files, ← sameFiles] at lastThere tokens lastHeld
    refine ⟨?_, fun laterEnvironment laterSilent => ?_⟩
    · rw [run_decrypt_of_saved sited lastThere tokens]
    · obtain ⟨again, ranAgain, againValues⟩ :=
        run_load_of_saved sited lastThere tokens lastHeld.holds secretIs laterSilent
      refine ⟨again, ranAgain, fun setting => ?_⟩
      rw [againValues, sameValues]

/-- Beside a sealed key, an open one stays in the file. -/
theorem not_migrates_of_sealed
    {value : Value} (sited : store.Sited directory name keyName draft)
    (held : HoldsMapping store storage.files entries)
    (plain : entries.valueOf? Setting.apiKey.name = some value)
    (isSealed : (heldAt entries sealedName).isTruthy = true) :
    ¬ ∃ taken, Migrates cipher store storage taken := by
  rintro ⟨taken, migrates⟩
  obtain ⟨settings, after, others, ran, -, heldAfter, noKey, -⟩ := migrates [] Settings.ownNames_nil
  have sameFile := nodeAt?_load_of_sealed sited held isSealed cipher [] []
  rw [ran] at sameFile
  have sameEntries := heldAfter.unique (held.of_nodeAt? sameFile)
  subst sameEntries
  rw [plain] at noKey
  cases noKey

section Uncopied

variable (held : HoldsMapping store storage.files entries)
  (isOpen : (heldAt entries Setting.apiKey.name).isTruthy = true)
  (notSealed : (heldAt entries sealedName).isTruthy = false)
  (deep : (withOpenKey entries).isCopyable = false)
include held isOpen notSealed deep

/-- An open key beside brackets that are nested too deeply for a copy makes every load fail. -/
theorem run_load_of_uncopied (environment : Environment) (overrides : Entries) :
    ((load cipher store environment overrides).run storage).1 = .error (.json .tooDeep) :=
  run_load (run_settings held.holds
    (.unsealed notSealed isOpen (congrArg Prod.fst (run_save_of_uncopied deep storage)) nofun))

/-- And it stays in the file. -/
theorem load_leaves_of_uncopied (environment : Environment) (overrides : Entries) :
    SameButLog ((load cipher store environment overrides).run storage).2 storage := by
  have left := load_leaves_of_open cipher environment overrides held.holds notSealed isOpen
  rwa [run_save_of_uncopied deep] at left

theorem not_migrates_of_uncopied : ¬ ∃ taken, Migrates cipher store storage taken := by
  rintro ⟨taken, migrates⟩
  obtain ⟨settings, after, others, ran, -⟩ := migrates [] Settings.ownNames_nil
  have failed : ((load cipher store [] []).run storage).1 = .error (.json .tooDeep) :=
    run_load_of_uncopied held isOpen notSealed deep [] []
  rw [ran] at failed
  cases failed

end Uncopied

/-- The file of a store is a mapping with an open key, and no text in it is written with half a
surrogate pair. -/
structure HoldsOpenKey (store : SettingsStore) (files : FileStore) (entries : Entries)
    (secret : String) : Prop where
  mapping : HoldsMapping store files entries
  key : entries.valueOf? Setting.apiKey.name = some (.text secret)
  nonempty : secret ≠ ""
  whole : store.WritesWhole files

theorem HoldsOpenKey.plain (held : HoldsOpenKey store files entries secret) :
    heldAt entries Setting.apiKey.name = .text secret := by
  rw [heldAt, held.key]
  rfl

theorem HoldsOpenKey.isTruthy (held : HoldsOpenKey store files entries secret) :
    (heldAt entries Setting.apiKey.name).isTruthy = true := by
  rw [held.plain, Value.isTruthy_text_iff]
  exact held.nonempty

/-- A load takes an open key out of the file exactly when there is no sealed one beside it and
the settings of the file can be copied.  Else the open key stays in the file, which is not
changed: a sealed key, opened or not, is enough for that, and without one every load fails. -/
theorem load_migrates_iff
    (lawful : cipher.Lawful) (made : at? path = .ok store) (apart : path.Apart)
    (held : HoldsOpenKey store storage.files entries secret) (ready : store.Ready storage.files) :
    ((∃ taken, Migrates cipher store storage taken) ↔
      (heldAt entries sealedName).isTruthy = false ∧ (withOpenKey entries).isCopyable = true) ∧
    ((heldAt entries sealedName).isTruthy = false → (withOpenKey entries).isCopyable = true →
      Migrates cipher store storage secret) ∧
    ((heldAt entries sealedName).isTruthy = true ∨ (withOpenKey entries).isCopyable = false →
      ∀ environment overrides,
        ((load cipher store environment overrides).run storage).2.files.nodeAt? path =
          storage.files.nodeAt? path) ∧
    ((heldAt entries sealedName).isTruthy = false → (withOpenKey entries).isCopyable = false →
      ∀ environment overrides,
        ((load cipher store environment overrides).run storage).1 = .error (.json .tooDeep)) := by
  obtain ⟨name, keyName, draft, sited⟩ := exists_sited made apart
  have taken := fun notSealed copies =>
    migrates_of_open lawful sited held.mapping held.plain held.nonempty notSealed copies ready
  refine ⟨⟨?_, fun ⟨notSealed, copies⟩ => ⟨secret, taken notSealed copies⟩⟩, taken, ?_,
    run_load_of_uncopied held.mapping held.isTruthy⟩
  · intro migrates
    have notSealed : (heldAt entries sealedName).isTruthy = false := by
      rw [← Bool.not_eq_true]
      exact fun isSealed => not_migrates_of_sealed sited held.mapping held.key isSealed migrates
    refine ⟨notSealed, Bool.of_not_eq_false fun deep => ?_⟩
    exact not_migrates_of_uncopied held.mapping held.isTruthy notSealed deep migrates
  · rw [← path_of_at? made]
    intro stays environment overrides
    cases isSealed : (heldAt entries sealedName).isTruthy with
    | true => exact nodeAt?_load_of_sealed sited held.mapping isSealed cipher environment overrides
    | false =>
        have deep := stays.resolve_left (by rw [isSealed]; exact Bool.false_ne_true)
        rw [(load_leaves_of_uncopied held.mapping held.isTruthy isSealed deep environment
          overrides).files]

/-! ## Files at the root -/

theorem holdsMapping_storing
    {text : String} (noReturn : '\r' ∉ text.toList) (json : Json.read text = .ok (.dict entries)) :
    HoldsMapping rootStore (storing text).files entries :=
  ⟨rfl, text, readText_storing noReturn, json⟩

theorem ready_storing (text : String) : rootStore.Ready (storing text).files := by
  refine ⟨fun draft made => ?_, .inl rfl⟩
  cases made
  rintro ⟨⟩

theorem migrates_single_open_key :
    Migrates Fernet.cipher rootStore (storing "\x7b\"api_key\":\"sk-plain\"\x7d") "sk-plain" := by
  have json : Json.read "\x7b\"api_key\":\"sk-plain\"\x7d" =
      .ok (.dict [("api_key", .text "sk-plain")]) := by cbv
  have noReturn : '\r' ∉ "\x7b\"api_key\":\"sk-plain\"\x7d".toList := by decide +kernel
  have held : HoldsOpenKey rootStore (storing "\x7b\"api_key\":\"sk-plain\"\x7d").files
      [("api_key", .text "sk-plain")] "sk-plain" :=
    ⟨holdsMapping_storing noReturn json, rfl, by decide,
      writesWhole_storing noReturn (by decide +kernel)⟩
  have made : at? ⟨1, ["settings.json"]⟩ = .ok rootStore := rfl
  exact (load_migrates_iff Fernet.lawful made (Path.apart_of_name rfl) held
    (ready_storing _)).2.1 rfl (by decide +kernel)

/-- An open key beside a sealed one of another cipher stays in the file, and the load
returns. -/
theorem open_key_stays_beside_unopened :
    (∃ settings, ((load Fernet.cipher rootStore [] []).run
      (storing
        "\x7b\"api_key\":\"sk-plain\",\"api_key_ciphertext\":\"dpapi:abcd\"\x7d")).1 =
          .ok settings) ∧
    ¬ ∃ taken, Migrates Fernet.cipher rootStore
      (storing
        "\x7b\"api_key\":\"sk-plain\",\"api_key_ciphertext\":\"dpapi:abcd\"\x7d") taken := by
  have json :
      Json.read
        "\x7b\"api_key\":\"sk-plain\",\"api_key_ciphertext\":\"dpapi:abcd\"\x7d" =
          .ok (.dict [("api_key", .text "sk-plain"), ("api_key_ciphertext", .text "dpapi:abcd")]) := by
    cbv
  have held := holdsMapping_storing (by decide +kernel) json
  have made : at? ⟨1, ["settings.json"]⟩ = .ok rootStore := rfl
  obtain ⟨name, keyName, draft, sited⟩ := exists_sited made (Path.apart_of_name rfl)
  have otherCipher : splitStrategy Fernet.cipher.strategy "dpapi:abcd" = ("dpapi", "abcd") := by
    decide +kernel
  refine ⟨?_, not_migrates_of_sealed sited held rfl rfl⟩
  obtain ⟨settings, loaded, -⟩ := run_load_of_file Settings.ownNames_nil held.holds
    (.passedOver rfl (congrArg Prod.fst (run_decrypt_of_other (by rw [otherCipher]; decide) _)) rfl)
  exact ⟨settings, loaded⟩

end SettingsStore

end QuoteDesk
