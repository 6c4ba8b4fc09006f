import QuoteDesk.Proofs.File.Siblings
import QuoteDesk.Proofs.Vault.Cipher
import QuoteDesk.Vault

/-!
# Sealing and opening

A key is made when there is none, and from then on it is read back from its file.  So what
a lawful cipher sealed is opened as long as the file of the key stays.  Neither sealing nor
opening changes anything but the key and its draft.
-/

namespace QuoteDesk

theorem Value.isTruthy_text_iff {s : String} : (Value.text s).isTruthy = true ↔ s ≠ "" := by
  rw [isTruthy, Bool.not_eq_true', Bool.eq_false_iff, ne_eq, String.isEmpty_iff]

/-- A text that is not empty is not passed over. -/
theorem Value.not_absent_text {s : String} (nonempty : s ≠ "") :
    ¬ (!(Value.text s).isTruthy) = true := by
  rwa [Bool.not_eq_true, Bool.not_eq_false', isTruthy_text_iff]

namespace Vault

open FileStore Storage Text

variable {ρ : Type} {cipher : Cipher ρ} {vault : Vault} {directory : Path} {name draft : String}
  {place : List String} {files after : FileStore} {storage : Storage ρ} {key : List UInt8}
  {secret token : String}

/-! ## Keys -/

theorem trimBytes_of_visible {data : List UInt8} (visible : ∀ byte ∈ data, isBlankByte byte = false) :
    trimBytes data = data := by
  have front : ∀ bytes : List UInt8, (∀ byte ∈ bytes, isBlankByte byte = false) →
      bytes.dropWhile isBlankByte = bytes := by
    intro bytes all
    cases bytes with
    | nil => rfl
    | cons first rest =>
        exact List.dropWhile_cons_of_neg (by rw [all first List.mem_cons_self]; decide)
  unfold trimBytes
  rw [front data visible, front data.reverse fun byte member =>
    visible byte (List.mem_reverse.mp member), List.reverse_reverse]

theorem isBlankByte_byteOf {c : Char} (visible : 0x20 < c.toNat ∧ c.toNat < 0x80) :
    isBlankByte (Base64.byteOf c) = false := by
  have size : (Base64.byteOf c).toNat = c.toNat := Utf8.toNat_ofNat_of_lt (by omega)
  simp [isBlankByte, UInt8.le_iff_toNat_le, ← UInt8.toNat_inj, size]
  omega

/-- The text of a key file is read as the key. -/
theorem readKey_keyText (size : key.length = Cipher.keyLength) :
    readKey (keyText key) = .ok key := by
  have visible : ∀ byte ∈ keyText key, isBlankByte byte = false := by
    intro byte member
    rw [keyText, Base64.utf8_encode] at member
    obtain ⟨c, written, rfl⟩ := List.mem_map.mp member
    obtain ⟨above, below, -⟩ := (Base64.isWritten_of_mem_encode key c written).visible
    exact isBlankByte_byteOf ⟨above, below⟩
  rw [readKey, trimBytes_of_visible visible, keyText, Base64.utf8_encode, Base64.decode_encode]
  exact if_pos size

theorem length_of_readKey {data : List UInt8} (read : readKey data = .ok key) :
    key.length = Cipher.keyLength := by
  unfold readKey at read
  split at read
  · split at read
    · next size =>
        cases read
        exact size
    · cases read
  · cases read

/-- A key lies in the file at a place. -/
def HoldsKey (files : FileStore) (place : List String) (key : List UInt8) : Prop :=
  ∃ data, files.node? place = some (.file data) ∧ readKey data = .ok key

theorem HoldsKey.length (held : HoldsKey files place key) : key.length = Cipher.keyLength := by
  obtain ⟨data, -, read⟩ := held
  exact length_of_readKey read

theorem HoldsKey.of_spares
    {changed : List (List String)} (held : HoldsKey files place key)
    (spares : Spares changed files after) (spared : place ∉ changed) : HoldsKey after place key := by
  obtain ⟨data, found, read⟩ := held
  exact ⟨data, (spares.node? place spared).trans found, read⟩

/-! ## Loading the key -/

section Loading

variable (drafted : vault.keyPath.Drafted directory name draft)
include drafted

theorem confined_loadKey (cipher : Cipher ρ) :
    Confined directory place [place ++ [name], place ++ [draft]] (loadKey cipher vault) := by
  unfold loadKey loadKeyText
  rw [drafted.parent_eq]
  refine .bind (.bind .makeDirectories fun _ => .get_bind fun storage => ?_) fun _ => .settle _
  split
  · exact .look _
  · exact .bind (.draw _) fun _ => .bind (.replaceFile drafted _) fun _ => .pure _

variable (there : storage.files.HasDirectory directory place)
include there

/-- A key that lies there is read; otherwise one is drawn and written. -/
theorem run_loadKey (cipher : Cipher ρ) :
    (loadKey cipher vault).run storage =
      if (storage.files.node? (place ++ [name])).isSome then
        ((storage.files.read vault.keyPath).mapError Fault.file >>= readKey, storage)
      else
        (draw cipher.freshKey >>= fun key => replaceFile vault.keyPath (keyText key) >>= fun _ =>
          settle (readKey (keyText key)) : StorageM ρ (List UInt8)).run storage := by
  have contains : storage.files.contains vault.keyPath =
      (storage.files.node? (place ++ [name])).isSome := by
    rw [drafted.path_eq, there.contains_child drafted.down]
  unfold loadKey loadKeyText
  rw [run_bind, run_bind, run_change, drafted.parent_eq, there.makeDirectories]
  dsimp only
  rw [run_bind, run_get]
  dsimp only
  rw [contains]
  by_cases found : (storage.files.node? (place ++ [name])).isSome = true
  · rw [if_pos found, if_pos found, run_look]
    cases storage.files.read vault.keyPath with
    | error fault => rfl
    | ok data => exact run_settle _ _
  · rw [if_neg found, if_neg found, run_bind, run_bind, run_draw]
    dsimp only
    rw [run_bind, run_bind]
    rcases ExceptT.run (replaceFile _ _) _ with ⟨fault | done, after⟩ <;> rfl

theorem run_loadKey_of_holds (held : HoldsKey storage.files (place ++ [name]) key) :
    (loadKey cipher vault).run storage = (.ok key, storage) := by
  obtain ⟨data, found, read⟩ := held
  rw [run_loadKey drafted there, found, Option.isSome_some, if_pos rfl, drafted.path_eq,
    there.read_child drafted.down found]
  exact congrArg (·, storage) read

/-- What lies in the place of a key and is none stays there, and is no use. -/
theorem exists_fault_of_run_loadKey
    (found : (storage.files.node? (place ++ [name])).isSome = true)
    (none : ∀ key, ¬ HoldsKey storage.files (place ++ [name]) key) (cipher : Cipher ρ) :
    ∃ fault, (loadKey cipher vault).run storage = (.error fault, storage) := by
  rw [run_loadKey drafted there, if_pos found]
  cases loaded : (storage.files.read vault.keyPath).mapError Fault.file >>= readKey with
  | error fault => exact ⟨fault, rfl⟩
  | ok key =>
      obtain ⟨data, read, isKey⟩ := exists_of_bind_eq_ok loaded
      cases readRaw : storage.files.read vault.keyPath with
      | error fault =>
          rw [readRaw] at read
          cases read
      | ok raw =>
          rw [readRaw] at read
          cases read
          rw [drafted.path_eq] at readRaw
          have held := there.node?_of_read_child drafted.down readRaw
          exact absurd ⟨data, held, isKey⟩ (none key)

theorem run_loadKey_of_absent
    (lawful : cipher.Lawful) (absent : storage.files.node? (place ++ [name]) = none)
    (draftFree : storage.files.node? (place ++ [draft]) ≠ some .directory) :
    ∃ key after, (loadKey cipher vault).run storage = (.ok key, after) ∧
      HoldsKey after.files (place ++ [name]) key := by
  let drawn := cipher.freshKey storage.random
  have size : drawn.1.length = Cipher.keyLength := lawful.freshKey storage.random
  have free : storage.files.node? (place ++ [name]) ≠ some .directory := by
    rw [absent]
    rintro ⟨⟩
  obtain ⟨files, ran, held, -⟩ := run_replaceFile { storage with random := drawn.2 } drafted there
    free draftFree (keyText drawn.1)
  refine ⟨drawn.1, { storage with random := drawn.2, files := files }, ?_,
    keyText drawn.1, held, readKey_keyText size⟩
  rw [run_loadKey drafted there, absent, Option.isSome_none, if_neg (by decide), run_bind, run_draw]
  dsimp only
  rw [run_bind, ran]
  dsimp only
  rw [run_settle, readKey_keyText size]

end Loading

/-- Directories that are still to be made are made before anything else. -/
theorem run_loadKey_of_made
    (made : storage.files.makeDirectories vault.keyPath.parent = .ok after)
    (again : after.makeDirectories vault.keyPath.parent = .ok after) (cipher : Cipher ρ) :
    (loadKey cipher vault).run storage =
      (loadKey cipher vault).run { storage with files := after } := by
  unfold loadKey loadKeyText
  rw [run_bind, run_bind, run_change, made, run_bind, run_bind, run_change, again]

theorem run_encrypt_of_made
    (storage : Storage ρ)
    (made : storage.files.makeDirectories vault.keyPath.parent = .ok after)
    (again : after.makeDirectories vault.keyPath.parent = .ok after) (cipher : Cipher ρ)
    (nonempty : secret ≠ "") :
    (encrypt cipher vault (.text secret)).run storage =
      (encrypt cipher vault (.text secret)).run { storage with files := after } := by
  unfold encrypt
  rw [if_neg (Value.not_absent_text nonempty), run_bind, run_bind, run_loadKey_of_made made again]

/-! ## Secrets -/

/-- A token has the name of the cipher in front, and opens as a secret under a key. -/
structure Opens (cipher : Cipher ρ) (key : List UInt8) (token secret : String) : Prop where
  nonempty : token ≠ ""
  unwraps : ∃ payload data, splitStrategy cipher.strategy token = (cipher.strategy, payload) ∧
    asciiBytes payload = .ok data ∧ cipher.unwrap key data = some (Utf8.encode secret.toList)

theorem splitStrategy_append
    {strategy payload : String} (noColon : ':' ∉ strategy.toList) (some : payload.toList ≠ [])
    (own : String) : splitStrategy own (strategy ++ ":" ++ payload) = (strategy, payload) := by
  have letters : ∀ c ∈ strategy.toList, (c != ':') = true := by
    intro c member
    rw [bne_iff_ne]
    rintro rfl
    exact noColon member
  have whole : (strategy ++ ":" ++ payload).toList = strategy.toList ++ ':' :: payload.toList := by
    simp
  have behind : (':' :: payload.toList).takeWhile (· != ':') = [] := rfl
  have before : (':' :: payload.toList).dropWhile (· != ':') = ':' :: payload.toList := rfl
  unfold splitStrategy
  dsimp only
  rw [whole, List.takeWhile_append_of_pos letters, List.dropWhile_append_of_pos letters, behind,
    before, List.append_nil, List.drop_one, List.tail_cons, if_neg (by rwa [List.isEmpty_iff]),
    String.ofList_toList, String.ofList_toList]

theorem asciiBytes_of_ascii {s : String} (ascii : ∀ c ∈ s.toList, c.toNat < 0x80) :
    asciiBytes s = .ok (Utf8.encode s.toList) := by
  unfold asciiBytes
  dsimp only
  rw [if_pos (List.all_eq_true.mpr fun c member => decide_eq_true (ascii c member)),
    Utf8.encode_of_ascii ascii]

/-- What a lawful cipher seals opens under the same key. -/
theorem opens_wrap
    (lawful : cipher.Lawful) (size : key.length = Cipher.keyLength) (secret : String)
    (random : ρ) :
    Opens cipher key
      (cipher.strategy ++ ":" ++ (cipher.wrap key (Utf8.encode secret.toList) random).1) secret where
  nonempty := by
    intro empty
    have none := congrArg String.toList empty
    simp at none
  unwraps := ⟨_, _,
    splitStrategy_append lawful.strategy (lawful.nonempty key _ random) _,
    asciiBytes_of_ascii (lawful.ascii key _ random), lawful.opens _ random size⟩

theorem run_encrypt_of_refused
    {after : Storage ρ} {fault : Fault} (nonempty : secret ≠ "")
    (refused : (loadKey cipher vault).run storage = (.error fault, after)) :
    (encrypt cipher vault (.text secret)).run storage = (.error fault, after) := by
  unfold encrypt
  rw [if_neg (Value.not_absent_text nonempty), run_bind, refused]

/-- What is no text is not sealed. -/
theorem exists_fault_of_encrypt_other
    {value : Value} (truthy : value.isTruthy = true) (other : ∀ s, value ≠ .text s)
    (cipher : Cipher ρ) (vault : Vault) (storage : Storage ρ) :
    ∃ fault, ((encrypt cipher vault value).run storage).1 = .error fault := by
  unfold encrypt
  rw [if_neg (by rw [truthy]; decide), run_bind]
  rcases (loadKey cipher vault).run storage with ⟨fault | key, after⟩
  · exact ⟨fault, rfl⟩
  · dsimp only
    split
    · next s => exact absurd rfl (other s)
    · exact ⟨_, rfl⟩

theorem run_decrypt_of_other
    (other : (splitStrategy cipher.strategy token).1 ≠ cipher.strategy) (storage : Storage ρ) :
    (decrypt cipher vault (.text token)).run storage =
      (.error (.badValue ("Unknown secret token prefix " ++
        quoted (splitStrategy cipher.strategy token).1)), storage) := by
  have nonempty : token ≠ "" := by
    rintro rfl
    exact other rfl
  unfold decrypt
  rw [if_neg (Value.not_absent_text nonempty)]
  dsimp only
  rw [if_pos other]
  rfl

section Secrets

variable (drafted : vault.keyPath.Drafted directory name draft)
include drafted

theorem confined_encrypt (cipher : Cipher ρ) (secret : Value) :
    Confined directory place [place ++ [name], place ++ [draft]]
      (encrypt cipher vault secret) := by
  unfold encrypt
  split
  · exact .pure _
  · refine .bind (confined_loadKey drafted cipher) fun key => ?_
    split
    · exact .bind (.draw _) fun _ => .pure _
    · exact .throw _

theorem confined_decrypt (cipher : Cipher ρ) (token : Value) :
    Confined directory place [place ++ [name], place ++ [draft]]
      (decrypt cipher vault token) := by
  unfold decrypt
  split
  · exact .pure _
  · split
    · dsimp only
      split
      · exact .throw _
      · refine .bind (confined_loadKey drafted cipher) fun key => .bind (.settle _) fun data => ?_
        split
        · exact .settle _
        · exact .throw _
    · exact .throw _

variable (there : storage.files.HasDirectory directory place)
include there

/-- A vault whose key can be read or made seals every secret, and its key is there then. -/
theorem run_encrypt
    (lawful : cipher.Lawful) (nonempty : secret ≠ "")
    (ready : storage.files.node? (place ++ [name]) = none ∨
      ∃ key, HoldsKey storage.files (place ++ [name]) key)
    (draftFree : storage.files.node? (place ++ [draft]) ≠ some .directory) :
    ∃ token key after, (encrypt cipher vault (.text secret)).run storage = (.ok token, after) ∧
      HoldsKey after.files (place ++ [name]) key ∧ Opens cipher key token secret := by
  have loads : ∃ key after, (loadKey cipher vault).run storage = (.ok key, after) ∧
      HoldsKey after.files (place ++ [name]) key := by
    rcases ready with absent | ⟨key, held⟩
    · exact run_loadKey_of_absent drafted there lawful absent draftFree
    · exact ⟨key, storage, run_loadKey_of_holds drafted there held, held⟩
  obtain ⟨key, after, loaded, held⟩ := loads
  let sealed := cipher.wrap key (Utf8.encode secret.toList) after.random
  refine ⟨cipher.strategy ++ ":" ++ sealed.1, key, { after with random := sealed.2 }, ?_, held,
    opens_wrap lawful held.length secret after.random⟩
  unfold encrypt
  rw [if_neg (Value.not_absent_text nonempty), run_bind, loaded]
  rfl

/-- A token that opens under the held key is opened, and nothing is touched. -/
theorem run_decrypt
    (held : HoldsKey storage.files (place ++ [name]) key) (opens : Opens cipher key token secret) :
    (decrypt cipher vault (.text token)).run storage = (.ok secret, storage) := by
  obtain ⟨nonempty, payload, data, parts, ascii, unwrapped⟩ := opens
  have decoded : secretText (Utf8.encode secret.toList) = .ok secret := by
    rw [secretText, Utf8.decode_encode]
    exact congrArg Except.ok String.ofList_toList
  unfold decrypt
  rw [if_neg (Value.not_absent_text nonempty)]
  dsimp only
  rw [parts]
  dsimp only
  rw [if_neg (not_not_intro rfl), run_bind, run_loadKey_of_holds drafted there held]
  dsimp only
  rw [run_bind, run_settle, ascii]
  dsimp only
  rw [unwrapped]
  dsimp only
  rw [run_settle, decoded]

end Secrets

end Vault

end QuoteDesk
