import QuoteDesk.Proofs.Settings.Loading

/-!
# What loading leaves behind

Loading changes files in two ways only: a sealed key is opened, for which a key may be made,
and settings with an open key are saved.  The overrides of a run come after that and leave
nothing but records.
-/

namespace QuoteDesk

namespace SettingsStore

open Storage Settings Vault

variable {ρ : Type} {cipher : Cipher ρ} {store : SettingsStore} {storage : Storage ρ}
  {entries : Entries} {fault : Fault}

/-! ## Layers leave records -/

theorem sameButLog_noted (result : Settings × List LogRecord) (storage : Storage ρ) :
    SameButLog ((noted result).run storage).2 storage := by
  obtain ⟨settings, log⟩ := result
  induction log generalizing storage with
  | nil => exact .rfl
  | cons entry rest inductionHypothesis =>
      have later := inductionHypothesis ((note entry).run storage).2
      unfold noted at later ⊢
      rw [List.forIn_cons]
      exact later.trans (sameButLog_note entry storage)

theorem sameButLog_load
    (environment : Environment) (overrides : Entries) (storage : Storage ρ) :
    SameButLog ((load cipher store environment overrides).run storage).2
      ((readEntries store >>= settingsOf cipher store).run storage).2 := by
  rw [load_eq]
  refine sameButLog_bind (fun settings after => ?_) storage
  exact (sameButLog_bind (fun _ => sameButLog_noted _) after).trans (sameButLog_noted _ after)

/-! ## Settings of entries -/

theorem sameButLog_settingsWith_closed (key : Value) (storage : Storage ρ) :
    SameButLog ((settingsWith cipher store entries (key, false)).run storage).2 storage := by
  unfold settingsWith
  dsimp only
  obtain ⟨noted, same, ran⟩ := run_noteIf _ _ _ storage
  rw [ran]
  exact same

theorem sameButLog_migrate
    (cipher : Cipher ρ) (store : SettingsStore) (settings : Settings) (storage : Storage ρ) :
    SameButLog ((migrate cipher store settings).run storage).2
      ((save cipher store settings).run storage).2 := by
  unfold migrate
  rw [run_tryCatch]
  rcases (save cipher store settings).run storage with ⟨fault | done, after⟩
  · dsimp only
    split
    · exact sameButLog_note _ after
    · exact .rfl
  · exact .rfl

/-- A sealed key is opened, and nothing is done beyond that. -/
theorem sameButLog_settingsOf_of_sealed
    (isSealed : (heldAt entries sealedName).isTruthy = true) (storage : Storage ρ) :
    SameButLog ((settingsOf cipher store entries).run storage).2
      ((decrypt cipher store.vault (heldAt entries sealedName)).run storage).2 := by
  rw [settingsOf_eq, run_bind]
  unfold heldAt at isSealed ⊢
  unfold keyOf
  dsimp only
  rw [if_pos isSealed, run_tryCatch, run_bind]
  rcases ExceptT.run (decrypt _ _ _) storage with ⟨fault | key, after⟩
  · dsimp only
    cases fault.isBadValue with
    | false => exact .rfl
    | true => exact (sameButLog_settingsWith_closed _ _).trans (sameButLog_note _ after)
  · exact sameButLog_settingsWith_closed _ after

theorem sameButLog_settingsOf_of_open
    (notSealed : (heldAt entries sealedName).isTruthy = false)
    (isOpen : (heldAt entries Setting.apiKey.name).isTruthy = true) (storage : Storage ρ) :
    SameButLog ((settingsOf cipher store entries).run storage).2
      ((save cipher store (withOpenKey entries)).run storage).2 := by
  obtain ⟨found, sameFound, ran⟩ := run_keyOf_of_unsealed notSealed storage
  rw [settingsOf_eq, run_bind, ran, if_pos isOpen]
  dsimp only
  unfold settingsWith
  dsimp only
  obtain ⟨ready, sameReady, ranReady⟩ := run_noteIf _ _ _ found
  rw [ranReady, if_pos rfl, if_pos isOpen]
  have sameMigrating := sameButLog_migrate cipher store (withOpenKey entries) ready
  have sameSaving := (passesOverLog_save cipher store (withOpenKey entries)
    (sameReady.trans sameFound)).2
  exact (sameButLog_bind (fun _ _ => .rfl) ready).trans (sameMigrating.trans sameSaving)

theorem sameButLog_settingsOf_of_absent
    (notSealed : (heldAt entries sealedName).isTruthy = false)
    (notOpen : (heldAt entries Setting.apiKey.name).isTruthy = false) (storage : Storage ρ) :
    SameButLog ((settingsOf cipher store entries).run storage).2 storage := by
  obtain ⟨found, sameFound, ran⟩ := run_keyOf_of_unsealed notSealed storage
  rw [notOpen] at ran
  rw [settingsOf_eq, run_bind, ran]
  exact (sameButLog_settingsWith_closed _ found).trans sameFound

/-! ## Loading -/

section Loading

variable (cipher : Cipher ρ) (environment : Environment) (overrides : Entries)

/-- A file that cannot be used is left as it is. -/
theorem load_leaves_of_refused (refused : Holds store storage.files (.error fault)) :
    SameButLog ((load cipher store environment overrides).run storage).2 storage := by
  refine (sameButLog_load environment overrides storage).trans ?_
  obtain ⟨read, same⟩ := run_readEntries refused
  rw [run_bind]
  rcases ran : (readEntries store).run storage with ⟨result, after⟩
  rw [ran] at read same
  dsimp only at read
  subst read
  exact same

/-- After a load the files are as the migration of the key left them. -/
theorem load_leaves
    (holds : Holds store storage.files (.ok entries)) :
    ∃ read, SameButLog read storage ∧
      SameButLog ((load cipher store environment overrides).run storage).2
        ((settingsOf cipher store entries).run read).2 := by
  obtain ⟨read, same⟩ := run_readEntries holds
  refine ⟨_, same, (sameButLog_load environment overrides storage).trans ?_⟩
  rw [run_bind]
  rcases ran : (readEntries store).run storage with ⟨result, after⟩
  rw [ran] at read
  dsimp only at read
  subst read
  exact .rfl

variable (holds : Holds store storage.files (.ok entries))
include holds

/-- A sealed key is opened. -/
theorem load_leaves_of_sealed (isSealed : (heldAt entries sealedName).isTruthy = true) :
    SameButLog ((load cipher store environment overrides).run storage).2
      ((decrypt cipher store.vault (heldAt entries sealedName)).run storage).2 := by
  obtain ⟨read, same, left⟩ := load_leaves cipher environment overrides holds
  exact (left.trans (sameButLog_settingsOf_of_sealed isSealed read)).trans
    (passesOverLog_decrypt cipher store.vault _ same).2

/-- Settings with an open key are saved. -/
theorem load_leaves_of_open
    (notSealed : (heldAt entries sealedName).isTruthy = false)
    (isOpen : (heldAt entries Setting.apiKey.name).isTruthy = true) :
    SameButLog ((load cipher store environment overrides).run storage).2
      ((save cipher store (withOpenKey entries)).run storage).2 := by
  obtain ⟨read, same, left⟩ := load_leaves cipher environment overrides holds
  exact (left.trans (sameButLog_settingsOf_of_open notSealed isOpen read)).trans
    (passesOverLog_save cipher store _ same).2

/-- A file without a key is left as it is. -/
theorem load_leaves_of_absent
    (notSealed : (heldAt entries sealedName).isTruthy = false)
    (notOpen : (heldAt entries Setting.apiKey.name).isTruthy = false) :
    SameButLog ((load cipher store environment overrides).run storage).2 storage := by
  obtain ⟨read, same, left⟩ := load_leaves cipher environment overrides holds
  exact (left.trans (sameButLog_settingsOf_of_absent notSealed notOpen read)).trans same

end Loading

end SettingsStore

end QuoteDesk
