import QuoteDesk.Proofs.Settings.Loading
import QuoteDesk.Proofs.Value.Sameness
import QuoteDesk.Proofs.Vault.Sealing

/-!
# Saving settings

Settings with values of JSON are saved as a mapping that does not have their key but a token
for it.  The file is read back with all entries in the order in which they were written, and
the token opens as the key.
-/

namespace QuoteDesk

open FileStore Storage Text Vault

/-- Settings that a file can hold: values of JSON that are not nested too deeply for a copy, nor
for a mapping around them. -/
structure Settings.Storable (settings : Settings) : Prop where
  json : ∀ setting, (settings.value setting).IsJson
  nests : ∀ setting, (settings.value setting).NestsWithin (Json.depthLimit - 1)
  copies : settings.isCopyable = true

namespace SettingsStore

variable {ρ : Type} {cipher : Cipher ρ} {store : SettingsStore} {settings : Settings}
  {strategy secret : String} {token : Option String} {directory : Path}
  {name keyName draft : String} {place : List String} {files ready : FileStore}
  {storage after : Storage ρ} {entries : Entries}

/-! ## What is stored -/

/-- The entries that are stored for settings, with a token for their key or without one. -/
def storedWith (strategy : String) (settings : Settings) (token : Option String) : Entries :=
  settings.toEntries.without Setting.apiKey.name ++
    (token.map fun sealed => (sealedName, Value.text sealed)).toList ++
      [(versionName, .int version), (strategyName, .text strategy)]

theorem names_storedWith (strategy : String) (settings : Settings) (token : Option String) :
    (storedWith strategy settings token).map Prod.fst =
      (Setting.all.map Setting.name).filter (· ≠ Setting.apiKey.name) ++
        (token.map fun _ => sealedName).toList ++ [versionName, strategyName] := by
  have openNames : (settings.toEntries.without Setting.apiKey.name).map Prod.fst =
      (Setting.all.map Setting.name).filter (· ≠ Setting.apiKey.name) := by
    rw [Entries.without, Settings.toEntries, List.filter_map, List.filter_map, List.map_map]
    rfl
  rw [storedWith, List.map_append, List.map_append, openNames]
  cases token <;> rfl

theorem nodup_names_storedWith (strategy : String) (settings : Settings) (token : Option String) :
    ((storedWith strategy settings token).map Prod.fst).Nodup := by
  rw [names_storedWith]
  cases token with
  | none => decide +kernel
  | some sealed =>
      rw [Option.map_some]
      decide +kernel

theorem forall_mem_storedWith
    {holds : Value → Prop} (values : ∀ setting, holds (settings.value setting))
    (texts : ∀ s, holds (.text s)) (number : holds (.int version)) :
    ∀ entry ∈ storedWith strategy settings token, holds entry.2 := by
  have openEntries : ∀ entry ∈ settings.toEntries.without Setting.apiKey.name, holds entry.2 := by
    intro entry member
    obtain ⟨setting, -, rfl⟩ := List.mem_map.mp (List.mem_of_mem_filter member)
    exact values setting
  have sealedEntries : ∀ entry ∈ (token.map fun sealed => (sealedName, Value.text sealed)).toList,
      holds entry.2 := by
    cases token with
    | none => exact List.forall_mem_nil _
    | some sealed => exact List.forall_mem_singleton.mpr (texts sealed)
  rw [storedWith, List.forall_mem_append, List.forall_mem_append]
  exact ⟨⟨openEntries, sealedEntries⟩,
    List.forall_mem_cons.mpr ⟨number, List.forall_mem_singleton.mpr (texts strategy)⟩⟩

theorem valueOf?_storedWith_of_ne {setting : Setting} (other : setting ≠ .apiKey) :
    (storedWith strategy settings token).valueOf? setting.name = some (settings.value setting) := by
  rw [Entries.valueOf?_eq_some_iff (nodup_names_storedWith strategy settings token)]
  refine List.mem_append_left _ (List.mem_append_left _ (List.mem_filter.mpr ⟨?_, ?_⟩))
  · exact List.mem_map_of_mem (Setting.mem_all setting)
  · exact decide_eq_true (mt Settings.name_eq_name_iff.mp other)

theorem valueOf?_storedWith_key (strategy : String) (settings : Settings) (token : Option String) :
    (storedWith strategy settings token).valueOf? Setting.apiKey.name = none := by
  refine Settings.valueOf?_eq_none ?_
  rw [names_storedWith]
  cases token with
  | none => decide +kernel
  | some sealed =>
      rw [Option.map_some]
      decide +kernel

theorem valueOf?_storedWith_sealed
    (strategy : String) (settings : Settings) (token : Option String) :
    (storedWith strategy settings token).valueOf? sealedName = token.map .text := by
  cases token with
  | none =>
      refine Settings.valueOf?_eq_none ?_
      rw [names_storedWith]
      decide +kernel
  | some sealed =>
      refine (Entries.valueOf?_eq_some_iff (nodup_names_storedWith strategy settings _)).mpr ?_
      exact List.mem_append_left _ (List.mem_append_right _ List.mem_cons_self)

/-- Stored entries are written, and read back in the order in which they were written. -/
theorem exists_fileText
    (storable : settings.Storable) (strategy : String) (token : Option String) :
    ∃ text, fileText (storedWith strategy settings token) = .ok text ∧ '\r' ∉ text.toList ∧
      Json.read text = .ok (.dict ((storedWith strategy settings token).arranged true)) := by
  have json : (Value.dict (storedWith strategy settings token)).IsJson :=
    .dict (nodup_names_storedWith strategy settings token)
      (forall_mem_storedWith storable.json .text (.int (by decide +kernel)))
  have nests : (Value.dict (storedWith strategy settings token)).NestsWithin Json.depthLimit :=
    .dict (forall_mem_storedWith storable.nests (fun s => .flat (by simp) (by simp))
      (.flat (by simp) (by simp)))
  obtain ⟨text, written, noReturn, read⟩ := Json.exists_write json nests ⟨some 2, true, true⟩
  rw [Entries.arranged_dict] at read
  refine ⟨text, ?_, noReturn, read⟩
  rw [fileText, written]

/-! ## What a saved file holds -/

theorem readText_child
    {text : String} (there : files.HasDirectory directory place) (down : name ≠ "..")
    (written : files.node? (place ++ [name]) = some (.file (Utf8.encode text.toList)))
    (noReturn : '\r' ∉ text.toList) : files.readText (directory.child name) = .ok text :=
  readText_of_read (there.read_child down written) noReturn

/-- The file of a store is a mapping. -/
structure HoldsMapping (store : SettingsStore) (files : FileStore) (entries : Entries) : Prop where
  there : files.contains store.path = true
  read : ∃ text, files.readText store.path = .ok text ∧ Json.read text = .ok (.dict entries)

theorem HoldsMapping.holds (held : HoldsMapping store files entries) :
    Holds store files (.ok entries) := by
  obtain ⟨there, text, read, json⟩ := held
  exact .mapping there read json

theorem HoldsMapping.of_nodeAt?
    {others : FileStore} (held : HoldsMapping store files entries)
    (same : others.nodeAt? store.path = files.nodeAt? store.path) :
    HoldsMapping store others entries := by
  obtain ⟨there, text, read, json⟩ := held
  exact ⟨(contains_congr same).trans there, text, (readText_congr same there).trans read, json⟩

/-- A file holds one mapping. -/
theorem HoldsMapping.unique
    {others : Entries} (held : HoldsMapping store files entries)
    (heldToo : HoldsMapping store files others) : entries = others := by
  obtain ⟨-, text, read, json⟩ := held
  obtain ⟨-, textToo, readToo, jsonToo⟩ := heldToo
  cases read.symm.trans readToo
  cases json.symm.trans jsonToo
  rfl

theorem holdsMapping_of_written
    {text : String} (sited : store.Sited directory name keyName draft)
    (there : files.HasDirectory directory place)
    (written : files.node? (place ++ [name]) = some (.file (Utf8.encode text.toList)))
    (noReturn : '\r' ∉ text.toList) (read : Json.read text = .ok (.dict entries)) :
    HoldsMapping store files entries := by
  have path := sited.settings.path_eq
  refine ⟨?_, text, ?_, read⟩
  · rw [path, there.contains_child sited.settings.down, written]
    rfl
  · rw [path]
    exact readText_child there sited.settings.down written noReturn

/-! ## Files that can be written -/

/-- No directory is in the way of a draft, and the key can be read if it is there. -/
structure Ready (store : SettingsStore) (files : FileStore) : Prop where
  draftFree : ∀ draft, store.path.withSuffix ".tmp" = .ok draft →
    files.nodeAt? draft ≠ some .directory
  key : files.contains store.vault.keyPath = false ∨
    ∃ data key, files.read store.vault.keyPath = .ok data ∧ readKey data = .ok key

theorem ready_iff
    (sited : store.Sited directory name keyName draft)
    (there : files.HasDirectory directory place) :
    store.Ready files ↔ files.node? (place ++ [draft]) ≠ some .directory ∧
      (files.node? (place ++ [keyName]) = none ∨ ∃ key, HoldsKey files (place ++ [keyName]) key) := by
  have draftIs := there.nodeAt?_child sited.settings.draftDown
  have keyAbsent :
      files.contains store.vault.keyPath = false ↔ files.node? (place ++ [keyName]) = none := by
    rw [sited.key.path_eq, there.contains_child sited.key.down, Option.isSome_eq_false_iff,
      Option.isNone_iff_eq_none]
  have keyHeld : ∀ key, (∃ data, files.read store.vault.keyPath = .ok data ∧
      readKey data = .ok key) ↔ HoldsKey files (place ++ [keyName]) key := by
    intro key
    rw [sited.key.path_eq]
    constructor
    · rintro ⟨data, read, isKey⟩
      exact ⟨data, there.node?_of_read_child sited.key.down read, isKey⟩
    · rintro ⟨data, held, isKey⟩
      exact ⟨data, there.read_child sited.key.down held, isKey⟩
  constructor
  · rintro ⟨draftFree, key⟩
    refine ⟨?_, key.imp keyAbsent.mp ?_⟩
    · rw [← draftIs]
      exact draftFree _ sited.settings.withSuffix
    · rintro ⟨data, key, read, isKey⟩
      exact ⟨key, (keyHeld key).mp ⟨data, read, isKey⟩⟩
  · rintro ⟨draftFree, key⟩
    refine ⟨fun other made => ?_, key.imp keyAbsent.mpr ?_⟩
    · cases sited.settings.withSuffix.symm.trans made
      rwa [draftIs]
    · rintro ⟨key, held⟩
      obtain ⟨data, read, isKey⟩ := (keyHeld key).mpr held
      exact ⟨data, key, read, isKey⟩

/-! ## Saving -/

/-- The token that a directory with the key of a vault has for a secret; there is none for an
empty one. -/
inductive Tokens (cipher : Cipher ρ) (files : FileStore) (keyPlace : List String)
    (secret : String) : Option String → Prop
  | absent (empty : secret = "") : Tokens cipher files keyPlace secret none
  | sealed {key : List UInt8} {token : String} (nonempty : secret ≠ "")
      (held : HoldsKey files keyPlace key) (opens : Opens cipher key token secret) :
      Tokens cipher files keyPlace secret (some token)

theorem Tokens.of_spares
    {others : FileStore} {keyPlace : List String} {token : Option String}
    {changed : List (List String)} (tokens : Tokens cipher files keyPlace secret token)
    (spares : Spares changed files others) (spared : keyPlace ∉ changed) :
    Tokens cipher others keyPlace secret token := by
  cases tokens with
  | absent empty => exact .absent empty
  | sealed nonempty held opens => exact .sealed nonempty (held.of_spares spares spared) opens

/-- Settings that cannot be copied are not sealed either. -/
theorem run_stored_of_uncopied (deep : settings.isCopyable = false) (storage : Storage ρ) :
    (stored cipher store settings).run storage = (.error (.json .tooDeep), storage) := by
  unfold stored
  rw [run_bind, run_settle, Settings.copied, deep, if_neg Bool.false_ne_true]

theorem run_save_of_refused
    {fault : Fault} (refused : (stored cipher store settings).run storage = (.error fault, after)) :
    (save cipher store settings).run storage = (.error fault, after) := by
  unfold save
  rw [run_bind, refused]

/-- Settings that are nested too deeply are not saved, and nothing is touched. -/
theorem run_save_of_uncopied (deep : settings.isCopyable = false) (storage : Storage ρ) :
    (save cipher store settings).run storage = (.error (.json .tooDeep), storage) :=
  run_save_of_refused (run_stored_of_uncopied deep storage)

section Copied

variable (copies : settings.isCopyable = true)
include copies

theorem run_stored_of_absent
    (notSealed : (settings.value .apiKey).isTruthy = false) (storage : Storage ρ) :
    (stored cipher store settings).run storage =
      (.ok (storedWith cipher.strategy settings none), storage) := by
  unfold stored
  rw [run_bind, run_settle, Settings.copied, if_pos copies]
  dsimp only
  rw [notSealed, if_neg Bool.false_ne_true]
  rfl

theorem run_stored_of_encrypt
    {sealed : Except Fault String} (isSealed : (settings.value .apiKey).isTruthy = true)
    (encrypted : (encrypt cipher store.vault (settings.value .apiKey)).run storage =
      (sealed, after)) :
    (stored cipher store settings).run storage =
      (sealed.map fun token => storedWith cipher.strategy settings (some token), after) := by
  unfold stored
  rw [run_bind, run_settle, Settings.copied, if_pos copies]
  dsimp only
  rw [isSealed, if_pos rfl, run_bind, encrypted]
  cases sealed <;> rfl

end Copied

section Sited

variable (sited : store.Sited directory name keyName draft)
include sited

theorem confined_stored (cipher : Cipher ρ) (settings : Settings) :
    Confined directory place [place ++ [keyName], place ++ [draft]]
      (stored cipher store settings) := by
  unfold stored
  refine .bind (.settle _) fun copied => ?_
  dsimp only
  split
  · exact .bind (confined_encrypt sited.key cipher _) fun _ => .bind (.pure _) fun _ => .pure _
  · exact .bind (.pure _) fun _ => .pure _

/-- What is stored is written beside the file and moved there. -/
theorem run_save_of_stored
    {text : String} (stored : (stored cipher store settings).run storage = (.ok entries, after))
    (written : fileText entries = .ok text)
    (made : after.files.makeDirectories directory = .ok ready)
    (there : ready.HasDirectory directory place)
    (free : ready.node? (place ++ [name]) ≠ some .directory)
    (draftFree : ready.node? (place ++ [draft]) ≠ some .directory) :
    ∃ last, (save cipher store settings).run storage = (.ok (), last) ∧
      last.files.node? (place ++ [name]) = some (.file (Utf8.encode text.toList)) ∧
      Spares [place ++ [name], place ++ [draft]] ready last.files := by
  obtain ⟨files, ran, held, spares⟩ := run_replaceFile { after with files := ready }
    sited.settings there free draftFree (Utf8.encode text.toList)
  unfold save
  rw [run_bind, stored]
  dsimp only
  rw [run_bind, run_settle, written]
  dsimp only
  rw [run_bind, run_change, sited.settings.parent_eq, made]
  dsimp only
  rw [run_bind, ran]
  exact ⟨_, rfl, held, spares⟩

/-- The key of settings is sealed where the key of the vault can be read or made. -/
theorem run_stored
    (storage : Storage ρ) (lawful : cipher.Lawful) (copies : settings.isCopyable = true)
    (secretIs : settings.value .apiKey = .text secret)
    (there : storage.files.HasDirectory directory place) (ready : store.Ready storage.files) :
    ∃ token after, (stored cipher store settings).run storage =
        (.ok (storedWith cipher.strategy settings token), after) ∧
      Spares [place ++ [keyName], place ++ [draft]] storage.files after.files ∧
      Tokens cipher after.files (place ++ [keyName]) secret token := by
  obtain ⟨draftFree, keyReady⟩ := (ready_iff sited there).mp ready
  by_cases empty : secret = ""
  · have notSealed : (settings.value .apiKey).isTruthy = false := by
      rw [secretIs, empty]
      rfl
    exact ⟨none, storage, run_stored_of_absent copies notSealed storage, .rfl, .absent empty⟩
  · have isSealed : (settings.value .apiKey).isTruthy = true := by
      rwa [secretIs, Value.isTruthy_text_iff]
    obtain ⟨token, key, after, encrypted, keyHeld, opens⟩ :=
      run_encrypt sited.key there lawful empty keyReady draftFree
    have spares := confined_encrypt sited.key cipher (.text secret) storage there
    rw [encrypted] at spares
    rw [← secretIs] at encrypted
    exact ⟨some token, after, run_stored_of_encrypt copies isSealed encrypted, spares,
      .sealed empty keyHeld opens⟩

/-- Settings are saved where the key can be read or made and no directory is in the way. -/
theorem run_save
    (storage : Storage ρ) (lawful : cipher.Lawful) (storable : settings.Storable)
    (secretIs : settings.value .apiKey = .text secret)
    (there : storage.files.HasDirectory directory place)
    (free : storage.files.node? (place ++ [name]) ≠ some .directory)
    (ready : store.Ready storage.files) :
    ∃ token last, (save cipher store settings).run storage = (.ok (), last) ∧
      last.files.HasDirectory directory place ∧
      Tokens cipher last.files (place ++ [keyName]) secret token ∧
      HoldsMapping store last.files ((storedWith cipher.strategy settings token).arranged true) := by
  obtain ⟨token, after, sealed, sparesSealing, tokens⟩ :=
    run_stored sited storage lawful storable.copies secretIs there ready
  have afterThere := there.of_keeps sparesSealing.keeps
  have draftFree := ((ready_iff sited there).mp ready).1
  obtain ⟨text, written, noReturn, read⟩ := exists_fileText storable cipher.strategy token
  obtain ⟨last, ran, held, spares⟩ := run_save_of_stored sited sealed written
    afterThere.makeDirectories afterThere (mt (sparesSealing.directory_iff _).mp free)
    (mt (sparesSealing.directory_iff _).mp draftFree)
  have keySpared : place ++ [keyName] ∉ [place ++ [name], place ++ [draft]] := by
    simp [sited.distinct.symm, sited.key.distinct]
  have lastThere := afterThere.of_keeps spares.keeps
  exact ⟨token, last, ran, lastThere, tokens.of_spares spares keySpared,
    holdsMapping_of_written sited lastThere held noReturn read⟩

/-- Directories that are still to be made are made before anything is written. -/
theorem run_save_of_made
    (storable : settings.Storable) (secretIs : settings.value .apiKey = .text secret)
    (made : storage.files.makeDirectories directory = .ok ready)
    (there : ready.HasDirectory directory place) :
    (save cipher store settings).run storage =
      (save cipher store settings).run { storage with files := ready } := by
  by_cases empty : secret = ""
  · have notSealed : (settings.value .apiKey).isTruthy = false := by
      rw [secretIs, empty]
      rfl
    obtain ⟨text, written, -⟩ := exists_fileText storable cipher.strategy none
    unfold save
    rw [run_bind, run_bind, run_stored_of_absent storable.copies notSealed,
      run_stored_of_absent storable.copies notSealed]
    dsimp only
    rw [run_bind, run_bind, run_settle, run_settle, written]
    dsimp only
    rw [run_bind, run_bind, run_change, run_change, sited.settings.parent_eq, made,
      there.makeDirectories]
  · have isSealed : (settings.value .apiKey).isTruthy = true := by
      rwa [secretIs, Value.isTruthy_text_iff]
    have sameStored :
        (stored cipher store settings).run storage =
          (stored cipher store settings).run { storage with files := ready } := by
      have sealingMade :
          storage.files.makeDirectories store.vault.keyPath.parent = .ok ready := by
        rw [sited.key.parent_eq]
        exact made
      have sealingThere : ready.makeDirectories store.vault.keyPath.parent = .ok ready := by
        rw [sited.key.parent_eq]
        exact there.makeDirectories
      have same := run_encrypt_of_made storage sealingMade sealingThere cipher empty
      rw [← secretIs] at same
      rcases ran : (encrypt cipher store.vault (settings.value .apiKey)).run
          { storage with files := ready } with ⟨sealed, after⟩
      rw [ran] at same
      rw [run_stored_of_encrypt storable.copies isSealed same,
        run_stored_of_encrypt storable.copies isSealed ran]
    unfold save
    rw [run_bind, run_bind, sameStored]

end Sited

end SettingsStore

end QuoteDesk
