import QuoteDesk.Proofs.Json.Parts
import QuoteDesk.Proofs.Results
import QuoteDesk.Proofs.Settings.Contents
import QuoteDesk.Proofs.Settings.Layers

/-!
# Loading settings

When the file of a store gives values, the layers above it are laid over them.  When the
file cannot be used, most faults are answered with the standard values alone; the others
come out of the loading.
-/

namespace QuoteDesk

namespace SettingsStore

open Number Storage Settings Text

variable {ρ : Type} {cipher : Cipher ρ} {store : SettingsStore} {storage : Storage ρ}
  {entries : Entries}

/-! ## Layers over the file -/

/-- The value that entries and the key among them give a setting. -/
def filed (entries : Entries) (key : Option Value) (setting : Setting) : Option Value :=
  if setting = .apiKey then key else entries.valueOf? setting.name

theorem value_keyed
    (names : (entries.map Prod.fst).Nodup) (key : Option Value) (setting : Setting) :
    (keyed entries key).value setting = (filed entries key setting).getD setting.standard := by
  have stated := value_statedSettings names setting
  unfold keyed filed
  cases key with
  | none => exact stated
  | some value =>
      change ((statedSettings entries).update .apiKey value).value setting = _
      rw [value_update, stated]
      by_cases isKey : setting = .apiKey
      · rw [if_pos isKey, if_pos isKey]
        rfl
      · rw [if_neg isKey, if_neg isKey, if_neg isKey]

/-- What the file of a store gives the settings, or why it cannot be used.  What a file gives that
writes half a surrogate pair is left open. -/
inductive Gives (cipher : Cipher ρ) (store : SettingsStore) (storage : Storage ρ) :
    Except Fault (Setting → Option Value) → Prop
  | values {entries : Entries} {key : Option Value} (whole : store.WritesWhole storage.files)
      (holds : Holds store storage.files (.ok entries))
      (givesKey : GivesKey cipher store storage entries (.ok key)) :
      Gives cipher store storage (.ok (filed entries key))
  | unread {fault : Fault} (refused : Holds store storage.files (.error fault)) :
      Gives cipher store storage (.error fault)
  | unopened {entries : Entries} {fault : Fault} (whole : store.WritesWhole storage.files)
      (holds : Holds store storage.files (.ok entries))
      (refused : GivesKey cipher store storage entries (.error fault)) :
      Gives cipher store storage (.error fault)

/-- Every file and key give values or a reason why there are none. -/
theorem exists_gives
    {storage : Storage ρ} (whole : store.WritesWhole storage.files) (cipher : Cipher ρ) :
    ∃ given, Gives cipher store storage given := by
  obtain ⟨held, holds⟩ := exists_holds store storage.files
  cases held with
  | error fault => exact ⟨_, .unread holds⟩
  | ok entries =>
      obtain ⟨key, givesKey⟩ := exists_givesKey cipher store storage entries
      cases key with
      | error fault => exact ⟨_, .unopened whole holds givesKey⟩
      | ok key => exact ⟨_, .values whole holds givesKey⟩

theorem run_noted (result : Settings × List LogRecord) (storage : Storage ρ) :
    ((noted result).run storage).1 = .ok result.1 := by
  obtain ⟨settings, log⟩ := result
  induction log generalizing storage with
  | nil => rfl
  | cons entry rest inductionHypothesis =>
      have later := inductionHypothesis ((note entry).run storage).2
      unfold noted at later ⊢
      rw [List.forIn_cons]
      exact later

/-- The settings of the file come before the two layers over them. -/
theorem load_eq
    (cipher : Cipher ρ) (store : SettingsStore) (environment : Environment) (overrides : Entries) :
    load cipher store environment overrides =
      (readEntries store >>= settingsOf cipher store) >>= fun settings =>
        noted (settings.override "CLI" (namedOverrides overrides)) >>= fun settings =>
          noted (settings.overrideByEnvironment environment) := by
  rw [bind_assoc]
  rfl

/-- What the file gives is overridden by the run and then by the environment. -/
theorem run_load
    {settings : Except Fault Settings} {environment : Environment} {overrides : Entries}
    (given : ((readEntries store >>= settingsOf cipher store).run storage).1 = settings) :
    ((load cipher store environment overrides).run storage).1 = settings.map fun settings =>
      ((settings.override "CLI" (namedOverrides overrides)).1.overrideByEnvironment
        environment).1 := by
  rw [load_eq, run_bind]
  rcases ran : (readEntries store >>= settingsOf cipher store).run storage with ⟨result, after⟩
  rw [ran] at given
  subst given
  cases result with
  | error fault => rfl
  | ok settings =>
      have overridden := run_noted (settings.override "CLI" (namedOverrides overrides)) after
      dsimp only
      rw [run_bind]
      rcases again : (noted (settings.override "CLI" (namedOverrides overrides))).run after with
        ⟨result, later⟩
      rw [again] at overridden
      subst overridden
      exact run_noted _ later

theorem run_settings
    {key : Except Fault (Option Value)} (holds : Holds store storage.files (.ok entries))
    (givesKey : GivesKey cipher store storage entries key) :
    ((readEntries store >>= settingsOf cipher store).run storage).1 = key.map (keyed entries) := by
  obtain ⟨read, same⟩ := run_readEntries holds
  rw [run_bind]
  rcases ran : (readEntries store).run storage with ⟨result, after⟩
  rw [ran] at read same
  dsimp only at read
  subst read
  exact run_settingsOf givesKey same

/-! ## Faults of loading -/

/-- A fault of a file that loading does not answer: its brackets are nested too deeply for the
reader or for a copy, or a key in it is no text. -/
def Escapes (fault : Fault) : Prop :=
  fault = .json .tooDeep ∨
    ∃ value part, (∀ s, value ≠ .text s) ∧ fault = Vault.noText value part

theorem isForgiven_of_isBadValue {fault : Fault} (bad : fault.isBadValue = true) :
    isForgiven fault = true := by
  unfold isForgiven
  split <;> first | rfl | exact bad

theorem isForgiven_or_escapes_of_refusal
    {secret : Value} {fault : Fault} (refusal : Vault.Refusal secret fault) :
    isForgiven fault = true ∨ Escapes fault := by
  cases refusal with
  | badValue bad => exact Or.inl (isForgiven_of_isBadValue bad)
  | file fault => exact Or.inl rfl
  | noText other part => exact Or.inr (Or.inr ⟨secret, part, other, rfl⟩)

theorem isForgiven_of_fileText {fault : Fault} (failed : fileText entries = .error fault) :
    isForgiven fault = true := by
  unfold fileText at failed
  split at failed <;> cases failed <;> rfl

theorem eq_tooDeep_of_copied
    {settings : Settings} {fault : Fault} (failed : settings.copied = .error fault) :
    fault = .json .tooDeep := by
  unfold Settings.copied at failed
  split at failed
  · cases failed
  · cases failed
    rfl

theorem failsOnly_stored (cipher : Cipher ρ) (store : SettingsStore) (settings : Settings) :
    FailsOnly (fun fault => isForgiven fault = true ∨ Escapes fault)
      (stored cipher store settings) := by
  have sealing :
      FailsOnly (fun fault => isForgiven fault = true ∨ Escapes fault)
        (Vault.encrypt cipher store.vault (settings.value .apiKey)) :=
    fun storage fault failed =>
      isForgiven_or_escapes_of_refusal (Vault.failsOnly_encrypt cipher _ _ storage fault failed)
  unfold stored
  refine .bind (.settle fun fault failed => Or.inr (Or.inl ?_)) fun copied => ?_
  · exact eq_tooDeep_of_copied failed
  dsimp only
  split
  · exact .bind sealing fun _ => .bind (.pure _) fun _ => .pure _
  · exact .bind (.pure _) fun _ => .pure _

theorem failsOnly_save (cipher : Cipher ρ) (store : SettingsStore) (settings : Settings) :
    FailsOnly (fun fault => isForgiven fault = true ∨ Escapes fault)
      (save cipher store settings) := by
  refine .bind (failsOnly_stored cipher store settings) fun entries => .bind ?_ fun text => ?_
  · exact .settle fun fault failed => Or.inl (isForgiven_of_fileText failed)
  · refine .bind (.change _ fun _ => Or.inl rfl) fun _ => .bind ?_ fun _ => .note _
    exact .replaceFile _ _ (fun _ => Or.inl rfl) fun _ => Or.inl rfl

theorem isForgiven_of_readText {files : FileStore} {path : Path} {fault : Fault}
    (failed : files.readText path = .error fault) : isForgiven fault = true := by
  unfold FileStore.readText at failed
  rcases eq_error_or_of_bind failed with unread | ⟨data, -, rest⟩
  · obtain ⟨refused, -, rfl⟩ := exists_of_mapError_eq_error unread
    rfl
  · rcases eq_error_or_of_bind rest with undecoded | ⟨chars, -, ⟨⟩⟩
    obtain ⟨refused, -, rfl⟩ := exists_of_mapError_eq_error undecoded
    rfl

theorem Holds.isForgiven_or_escapes
    {files : FileStore} {fault : Fault} (refused : Holds store files (.error fault)) :
    isForgiven fault = true ∨ Escapes fault := by
  cases refused with
  | unreadable there unread => exact Or.inl (isForgiven_of_readText unread)
  | givenUp there read json givesUp =>
      rcases givesUp with rfl | ⟨fault, rfl⟩
      · exact Or.inr (Or.inl rfl)
      · exact Or.inl rfl

theorem GivesKey.isForgiven_or_escapes
    {fault : Fault} (refused : GivesKey cipher store storage entries (.error fault)) :
    isForgiven fault = true ∨ Escapes fault := by
  cases refused with
  | unopened isSealed refused other =>
      exact isForgiven_or_escapes_of_refusal (Vault.failsOnly_decrypt cipher _ _ _ _ refused)
  | unsealed notSealed isOpen refused other => exact failsOnly_save cipher _ _ _ _ refused

theorem Gives.isForgiven_or_escapes
    {fault : Fault} (refused : Gives cipher store storage (.error fault)) :
    isForgiven fault = true ∨ Escapes fault := by
  cases refused with
  | unread refused => exact refused.isForgiven_or_escapes
  | unopened _ holds refused => exact refused.isForgiven_or_escapes

/-! ## Loading without fail -/

/-- Some faults of loading are answered with the standard settings, the others escape. -/
theorem run_loadOrStandard
    (environment : Environment) (overrides : Entries) (storage : Storage ρ) :
    ((loadOrStandard cipher store environment overrides).run storage).1 =
      match ((load cipher store environment overrides).run storage).1 with
      | .ok settings => .ok settings
      | .error fault =>
          if isForgiven fault = true then .ok Settings.standard else .error fault := by
  unfold loadOrStandard
  rw [run_tryCatch]
  rcases (load cipher store environment overrides).run storage with ⟨fault | settings, after⟩
  · dsimp only
    cases isForgiven fault <;> rfl
  · rfl

theorem run_loadOrStandard_of_values
    {values : Setting → Option Value} (gives : Gives cipher store storage (.ok values))
    (environment : Environment) (overrides : Entries) :
    ∃ settings : Settings,
      ((loadOrStandard cipher store environment overrides).run storage).1 = .ok settings ∧
        ∀ setting, settings.value setting = layered environment overrides values setting := by
  cases gives with
  | @values entries key _ holds givesKey =>
      rw [run_loadOrStandard, run_load (run_settings holds givesKey)]
      refine ⟨_, rfl, fun setting => ?_⟩
      rw [value_override_layers, value_keyed holds.nodup_names]
      unfold layered
      rw [← Option.or_assoc]
      cases (environmentValue? environment setting).or (overrideValue? overrides setting) <;> rfl

theorem run_loadOrStandard_of_refused
    {fault : Fault} (refused : Gives cipher store storage (.error fault))
    (environment : Environment) (overrides : Entries) :
    ((loadOrStandard cipher store environment overrides).run storage).1 =
      if isForgiven fault = true then .ok Settings.standard else .error fault := by
  rw [run_loadOrStandard]
  cases refused with
  | unread refused =>
      obtain ⟨failed, -⟩ := run_readEntries refused
      have unread :
          ((readEntries store >>= settingsOf cipher store).run storage).1 = .error fault := by
        rw [run_bind]
        rcases ran : (readEntries store).run storage with ⟨result, after⟩
        rw [ran] at failed
        cases failed
        rfl
      rw [run_load unread]
      rfl
  | unopened _ holds refused =>
      rw [run_load (run_settings holds refused)]
      rfl

/-- A file is always read one way, as its bytes and the key in it say, if it writes no half of a
surrogate pair.  When it gives values, every setting is taken from the first layer that has it.
When it cannot be used, the settings are the standard ones, whatever the environment and the
overrides say, unless the fault escapes. -/
theorem loadOrStandard_layers_or_forgives_or_fails
    (cipher : Cipher ρ) (store : SettingsStore) (environment : Environment) (overrides : Entries)
    (storage : Storage ρ) (whole : store.WritesWhole storage.files) :
    (∃ given, Gives cipher store storage given) ∧
      ∀ given, Gives cipher store storage given →
        match given with
        | .ok values => ∃ settings : Settings,
            ((loadOrStandard cipher store environment overrides).run storage).1 = .ok settings ∧
              ∀ setting, settings.value setting = layered environment overrides values setting
        | .error fault =>
            (isForgiven fault = true ∧
              ((loadOrStandard cipher store environment overrides).run storage).1 =
                .ok Settings.standard) ∨
            (Escapes fault ∧
              ((loadOrStandard cipher store environment overrides).run storage).1 =
                .error fault) := by
  refine ⟨exists_gives whole cipher, fun given gives => ?_⟩
  cases given with
  | ok values => exact run_loadOrStandard_of_values gives environment overrides
  | error fault =>
      have outcome := run_loadOrStandard_of_refused gives environment overrides
      by_cases forgiven : isForgiven fault = true
      · rw [if_pos forgiven] at outcome
        exact Or.inl ⟨forgiven, outcome⟩
      · rw [if_neg forgiven] at outcome
        exact Or.inr ⟨gives.isForgiven_or_escapes.resolve_left forgiven, outcome⟩

/-! ## Files at the root -/

/-- A store whose files lie at the root. -/
def rootStore : SettingsStore :=
  ⟨⟨1, ["settings.json"]⟩, ⟨⟨1, ["settings.key"]⟩⟩⟩

/-- A storage that holds a file of settings and nothing else. -/
def storing (text : String) : Storage Entropy :=
  ⟨⟨[], [(["settings.json"], .file (Utf8.encode text.toList))]⟩, ⟨[], 0, 0⟩, []⟩

theorem readText_storing {text : String} (noReturn : '\r' ∉ text.toList) :
    (storing text).files.readText rootStore.path = .ok text :=
  readText_of_read rfl noReturn

theorem writesWhole_storing
    {text : String} (noReturn : '\r' ∉ text.toList) (whole : Json.isWhole 0 text.toList = true) :
    rootStore.WritesWhole (storing text).files := by
  intro found read
  cases (readText_storing noReturn).symm.trans read
  exact whole

/-- The model of a file is taken where nothing is laid over it. -/
theorem loadOrStandard_takes_model :
    rootStore.WritesWhole (storing "\x7b\"model\":\"m\"\x7d").files ∧
      ∃ settings : Settings,
        ((loadOrStandard Fernet.cipher rootStore [] []).run
          (storing "\x7b\"model\":\"m\"\x7d")).1 = .ok settings ∧
        settings.value .model = .text "m" := by
  have noReturn : '\r' ∉ "\x7b\"model\":\"m\"\x7d".toList := by decide +kernel
  have whole := writesWhole_storing noReturn (by decide +kernel)
  have json : Json.read "\x7b\"model\":\"m\"\x7d" = .ok (.dict [("model", .text "m")]) := by cbv
  obtain ⟨settings, loaded, layers⟩ :=
    (loadOrStandard_layers_or_forgives_or_fails Fernet.cipher rootStore [] [] _ whole).2 _
      (.values whole (.mapping rfl (readText_storing noReturn) json) (.absent rfl rfl))
  exact ⟨whole, settings, loaded, layers .model⟩

/-- A file that is a number of too many digits drops an override, whatever it may be taken to
give. -/
theorem override_dropped_of_tooManyDigits
    {digits : List Char} (allDigits : ∀ c ∈ digits, isAsciiDigit c = true)
    (notZero : digits.head? ≠ some '0') (long : digitLimit < digits.length) :
    ¬ ∃ values : Setting → Option Value, ∃ settings : Settings,
      ((loadOrStandard Fernet.cipher rootStore [] [("model", .text "m")]).run
        (storing (String.ofList digits))).1 = .ok settings ∧
      ∀ setting, settings.value setting = layered [] [("model", .text "m")] values setting := by
  have noReturn : '\r' ∉ (String.ofList digits).toList := by
    rw [String.toList_ofList]
    exact fun member => absurd (allDigits _ member) (by decide)
  have refused : Gives Fernet.cipher rootStore (storing (String.ofList digits))
      (.error (.json (.number (.tooManyDigits digits.length)))) :=
    .unread (.givenUp rfl (readText_storing noReturn)
      (Json.read_of_tooManyDigits allDigits notZero long) (.inr ⟨_, rfl⟩))
  rintro ⟨values, settings, loaded, layers⟩
  rw [run_loadOrStandard_of_refused refused] at loaded
  cases loaded
  have same : Value.text "gpt-4o-mini" = .text "m" := layers .model
  exact absurd (Value.text.inj same) (by decide)

/-- A file that is one number of 4301 digits. -/
def overlongNumber : String :=
  String.ofList (List.replicate 4301 '1')

/-- A number of 4301 digits in the file drops the override. -/
theorem override_dropped_by_overlong_number :
    ¬ ∃ values : Setting → Option Value, ∃ settings : Settings,
      ((loadOrStandard Fernet.cipher rootStore [] [("model", .text "m")]).run
        (storing overlongNumber)).1 = .ok settings ∧
      ∀ setting, settings.value setting = layered [] [("model", .text "m")] values setting := by
  refine override_dropped_of_tooManyDigits ?_ ?_ ?_
  · intro c member
    rw [List.eq_of_mem_replicate member]
    rfl
  · rw [List.head?_replicate]
    decide
  · rw [List.length_replicate]
    decide

end SettingsStore

end QuoteDesk
