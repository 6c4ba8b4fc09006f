import QuoteDesk.Proofs.Json.Scalars
import QuoteDesk.Proofs.Text.Utf8
import QuoteDesk.Proofs.Vault.Secrets
import QuoteDesk.Settings.Store

/-!
# What a file of settings says

The file of a store is read off its bytes: the entries that it holds, and the key among
them.  A key may be sealed, so reading it may open it, and an open key is sealed on the
way.  Records made before do not change what comes out.
-/

namespace QuoteDesk

namespace SettingsStore

open Storage

variable {ρ : Type} {cipher : Cipher ρ} {store : SettingsStore} {storage other : Storage ρ}
  {entries : Entries}

/-! ## Texts -/

theorem unifyLines_eq_self {chars : List Char} (noReturn : '\r' ∉ chars) :
    FileStore.unifyLines chars = chars := by
  induction chars with
  | nil => rfl
  | cons c rest inductionHypothesis =>
      rw [List.mem_cons, not_or] at noReturn
      rw [FileStore.unifyLines, inductionHypothesis noReturn.2]
      · rintro more rfl
        exact absurd rfl noReturn.1
      · rintro rfl
        exact absurd rfl noReturn.1

/-- The text of a file is what was written there. -/
theorem readText_of_read
    {files : FileStore} {path : Path} {text : String}
    (bytes : files.read path = .ok (Text.Utf8.encode text.toList)) (noReturn : '\r' ∉ text.toList) :
    files.readText path = .ok text := by
  rw [FileStore.readText, bytes]
  dsimp only [Except.mapError, bind, Except.bind]
  rw [Text.Utf8.decode_encode]
  dsimp only
  rw [unifyLines_eq_self noReturn]
  exact congrArg Except.ok String.ofList_toList

/-- No text in the file of a store is written with half a surrogate pair.  A half can be kept in a
text and be written again, but it is no character: a key with a half cannot be sealed. -/
def WritesWhole (store : SettingsStore) (files : FileStore) : Prop :=
  ∀ text, files.readText store.path = .ok text → Json.isWhole 0 text.toList = true

/-! ## Entries -/

/-- The entries that the file of a store holds, or why it cannot be used. -/
inductive Holds (store : SettingsStore) (files : FileStore) : Except Fault Entries → Prop
  | absent (missing : files.contains store.path = false) : Holds store files (.ok [])
  | unreadable {fault : Fault} (there : files.contains store.path = true)
      (unread : files.readText store.path = .error fault) : Holds store files (.error fault)
  | mapping {text : String} {entries : Entries} (there : files.contains store.path = true)
      (read : files.readText store.path = .ok text)
      (json : Json.read text = .ok (.dict entries)) : Holds store files (.ok entries)
  | noMapping {text : String} {value : Value} (there : files.contains store.path = true)
      (read : files.readText store.path = .ok text) (json : Json.read text = .ok value)
      (otherwise : ∀ entries, value ≠ .dict entries) : Holds store files (.ok [])
  | malformed {text : String} {what : Json.Problem} {line column index : Nat}
      (there : files.contains store.path = true) (read : files.readText store.path = .ok text)
      (json : Json.read text = .error (.malformed what line column index)) :
      Holds store files (.ok [])
  | givenUp {text : String} {fault : Json.Fault} (there : files.contains store.path = true)
      (read : files.readText store.path = .ok text) (json : Json.read text = .error fault)
      (givesUp : Json.GivesUp fault) : Holds store files (.error (.json fault))

/-- A file always holds something, or there is a reason why it cannot be used. -/
theorem exists_holds (store : SettingsStore) (files : FileStore) :
    ∃ held, Holds store files held := by
  cases there : files.contains store.path with
  | false => exact ⟨_, .absent there⟩
  | true =>
      cases read : files.readText store.path with
      | error fault => exact ⟨_, .unreadable there read⟩
      | ok text =>
          cases json : Json.read text with
          | error fault =>
              cases fault with
              | malformed what line column index => exact ⟨_, .malformed there read json⟩
              | number fault => exact ⟨_, .givenUp there read json (Or.inr ⟨fault, rfl⟩)⟩
              | tooDeep => exact ⟨_, .givenUp there read json (Or.inl rfl)⟩
          | ok value =>
              by_cases mapping : ∃ entries, value = .dict entries
              · obtain ⟨entries, rfl⟩ := mapping
                exact ⟨_, .mapping there read json⟩
              · refine ⟨_, .noMapping there read json fun entries same => ?_⟩
                exact mapping ⟨entries, same⟩

theorem Holds.nodup_names
    {files : FileStore} (holds : Holds store files (.ok entries)) :
    (entries.map Prod.fst).Nodup := by
  cases holds with
  | absent => exact List.nodup_nil
  | mapping _ _ json => exact (Json.isJson_of_read json).nodup_names
  | noMapping => exact List.nodup_nil
  | malformed => exact List.nodup_nil

/-- The entries that are read are those that the file holds. -/
theorem run_readEntries
    {held : Except Fault Entries} (holds : Holds store storage.files held) :
    ((readEntries store).run storage).1 = held ∧
      SameButLog ((readEntries store).run storage).2 storage := by
  unfold readEntries
  rw [run_bind, run_get]
  dsimp only
  cases holds with
  | absent missing =>
      rw [missing]
      exact ⟨rfl, .rfl⟩
  | unreadable there unread =>
      rw [there, if_neg (by decide), run_bind, run_look, unread]
      exact ⟨rfl, .rfl⟩
  | mapping there read json =>
      rw [there, if_neg (by decide), run_bind, run_look, read]
      dsimp only
      rw [json]
      exact ⟨rfl, .rfl⟩
  | noMapping there read json otherwise =>
      rw [there, if_neg (by decide), run_bind, run_look, read]
      dsimp only
      rw [json]
      split
      · next entries same => cases same; exact absurd rfl (otherwise entries)
      · exact ⟨rfl, rfl, rfl⟩
      · next same => cases same
      · next same => cases same
  | malformed there read json =>
      rw [there, if_neg (by decide), run_bind, run_look, read]
      dsimp only
      rw [json]
      exact ⟨rfl, rfl, rfl⟩
  | givenUp there read json givesUp =>
      rw [there, if_neg (by decide), run_bind, run_look, read]
      dsimp only
      rw [json]
      rcases givesUp with rfl | ⟨fault, rfl⟩ <;> exact ⟨rfl, .rfl⟩

/-! ## Keys -/

/-- A value that counts as present. -/
def present? (value : Value) : Option Value :=
  if value.isTruthy then some value else none

/-- What entries hold under a name; null where they hold nothing. -/
def heldAt (entries : Entries) (name : String) : Value :=
  (entries.valueOf? name).getD .null

/-- The settings that are written anew for an open key. -/
def withOpenKey (entries : Entries) : Settings :=
  (statedSettings entries).update .apiKey (heldAt entries Setting.apiKey.name)

/-- The key that entries give, or why the file cannot be used with it.  An open key is not
used beside a sealed one, and it is lost when sealing it fails for other reasons than
the files. -/
inductive GivesKey (cipher : Cipher ρ) (store : SettingsStore) (storage : Storage ρ)
    (entries : Entries) : Except Fault (Option Value) → Prop
  | opened {key : String} (isSealed : (heldAt entries sealedName).isTruthy = true)
      (opens : ((store.vault.decrypt cipher (heldAt entries sealedName)).run storage).1 = .ok key) :
      GivesKey cipher store storage entries (.ok (present? (.text key)))
  | passedOver {fault : Fault} (isSealed : (heldAt entries sealedName).isTruthy = true)
      (refused : ((store.vault.decrypt cipher (heldAt entries sealedName)).run storage).1 =
        .error fault)
      (bad : fault.isBadValue = true) : GivesKey cipher store storage entries (.ok none)
  | unopened {fault : Fault} (isSealed : (heldAt entries sealedName).isTruthy = true)
      (refused : ((store.vault.decrypt cipher (heldAt entries sealedName)).run storage).1 =
        .error fault)
      (other : fault.isBadValue = false) : GivesKey cipher store storage entries (.error fault)
  | plain (notSealed : (heldAt entries sealedName).isTruthy = false)
      (isOpen : (heldAt entries Setting.apiKey.name).isTruthy = true)
      (saved : ((save cipher store (withOpenKey entries)).run storage).1 = .ok () ∨
        ∃ fault, ((save cipher store (withOpenKey entries)).run storage).1 =
          .error (.file fault)) :
      GivesKey cipher store storage entries (.ok (some (heldAt entries Setting.apiKey.name)))
  | unsealed {fault : Fault} (notSealed : (heldAt entries sealedName).isTruthy = false)
      (isOpen : (heldAt entries Setting.apiKey.name).isTruthy = true)
      (refused : ((save cipher store (withOpenKey entries)).run storage).1 = .error fault)
      (other : ∀ refusal, fault ≠ .file refusal) :
      GivesKey cipher store storage entries (.error fault)
  | absent (notSealed : (heldAt entries sealedName).isTruthy = false)
      (notOpen : (heldAt entries Setting.apiKey.name).isTruthy = false) :
      GivesKey cipher store storage entries (.ok none)

theorem exists_givesKey
    (cipher : Cipher ρ) (store : SettingsStore) (storage : Storage ρ) (entries : Entries) :
    ∃ key, GivesKey cipher store storage entries key := by
  cases isSealed : (heldAt entries sealedName).isTruthy with
  | true =>
      cases opens : ((store.vault.decrypt cipher (heldAt entries sealedName)).run storage).1 with
      | ok key => exact ⟨_, .opened isSealed opens⟩
      | error fault =>
          cases bad : fault.isBadValue with
          | true => exact ⟨_, .passedOver isSealed opens bad⟩
          | false => exact ⟨_, .unopened isSealed opens bad⟩
  | false =>
      cases isOpen : (heldAt entries Setting.apiKey.name).isTruthy with
      | false => exact ⟨_, .absent isSealed isOpen⟩
      | true =>
          cases saved : ((save cipher store (withOpenKey entries)).run storage).1 with
          | ok done => exact ⟨_, .plain isSealed isOpen (Or.inl saved)⟩
          | error fault =>
              by_cases files : ∃ refusal, fault = .file refusal
              · obtain ⟨refusal, rfl⟩ := files
                exact ⟨_, .plain isSealed isOpen (Or.inr ⟨refusal, saved⟩)⟩
              · exact ⟨_, .unsealed isSealed isOpen saved fun refusal same =>
                  files ⟨refusal, same⟩⟩

/-- The settings of entries whose key is known; an open key is sealed in the file. -/
def settingsWith (cipher : Cipher ρ) (store : SettingsStore) (entries : Entries)
    (key : Value × Bool) : StorageM ρ Settings := do
  let unknown := unknownNames entries
  if !unknown.isEmpty then
    Storage.note (.warning logger
      ("Ignoring unknown settings keys: [" ++ ", ".intercalate (unknown.map Text.quoted) ++ "]"))
  let stated := statedSettings entries
  let settings := if key.1.isTruthy then stated.update .apiKey key.1 else stated
  if key.2 then migrate cipher store settings
  return settings

theorem settingsOf_eq (cipher : Cipher ρ) (store : SettingsStore) (entries : Entries) :
    settingsOf cipher store entries =
      keyOf cipher store entries >>= settingsWith cipher store entries := by
  cases entries with
  | nil =>
      have allKnown : unknownNames [] = [] := by simp [unknownNames]
      change _ = settingsWith cipher store [] (.text "", false)
      unfold settingsWith
      rw [allKnown]
      rfl
  | cons entry rest => rfl

/-! ## Saving -/

theorem passesOverLog_stored (cipher : Cipher ρ) (store : SettingsStore) (settings : Settings) :
    PassesOverLog (stored cipher store settings) := by
  unfold stored
  refine .bind (.settle _) fun copied => ?_
  dsimp only
  split
  · exact .bind (Vault.passesOverLog_encrypt _ _ _) fun _ => .bind (.pure _) fun _ => .pure _
  · exact .bind (.pure _) fun _ => .pure _

/-- Saving does not depend on the records made before. -/
theorem passesOverLog_save (cipher : Cipher ρ) (store : SettingsStore) (settings : Settings) :
    PassesOverLog (save cipher store settings) :=
  .bind (passesOverLog_stored cipher store settings) fun _ => .bind (.settle _) fun _ =>
    .bind (.change _) fun _ => .bind (.replaceFile _ _) fun _ => .note _

/-- A record that is made on a condition changes nothing but the log. -/
theorem run_noteIf {α : Type} (condition : Bool) (entry : LogRecord) (next : StorageM ρ α)
    (storage : Storage ρ) :
    ∃ noted, SameButLog noted storage ∧
      (if condition = true then note entry >>= fun _ => next else next).run storage =
        next.run noted := by
  cases condition with
  | false => exact ⟨storage, .rfl, rfl⟩
  | true => exact ⟨_, sameButLog_note entry storage, rfl⟩

theorem run_migrate_of_saved
    {settings : Settings}
    (saved : ((save cipher store settings).run storage).1 = .ok () ∨
      ∃ fault, ((save cipher store settings).run storage).1 = .error (.file fault)) :
    ((migrate cipher store settings).run storage).1 = .ok () := by
  unfold migrate
  rw [run_tryCatch]
  rcases ran : (save cipher store settings).run storage with ⟨result, after⟩
  rw [ran] at saved
  rcases saved with done | ⟨fault, failed⟩
  · cases done
    rfl
  · cases failed
    rfl

theorem run_migrate_of_refused
    {settings : Settings} {fault : Fault}
    (refused : ((save cipher store settings).run storage).1 = .error fault)
    (other : ∀ refusal, fault ≠ .file refusal) :
    ((migrate cipher store settings).run storage).1 = .error fault := by
  unfold migrate
  rw [run_tryCatch]
  rcases ran : (save cipher store settings).run storage with ⟨result, after⟩
  rw [ran] at refused
  cases refused
  dsimp only
  split
  · next refusal => exact absurd rfl (other refusal)
  · rfl

/-! ## Settings -/

/-- The settings of entries with a key. -/
def keyed (entries : Entries) (key : Option Value) : Settings :=
  (key.map ((statedSettings entries).update .apiKey)).getD (statedSettings entries)

theorem keyed_present (entries : Entries) (key : Value) :
    keyed entries (present? key) =
      if key.isTruthy then (statedSettings entries).update .apiKey key
      else statedSettings entries := by
  unfold keyed present?
  by_cases truthy : key.isTruthy = true
  · rw [if_pos truthy, if_pos truthy]
    rfl
  · rw [if_neg truthy, if_neg truthy]
    rfl

theorem run_settingsWith_closed (key : Value) (storage : Storage ρ) :
    ((settingsWith cipher store entries (key, false)).run storage).1 =
      .ok (keyed entries (present? key)) := by
  rw [keyed_present]
  unfold settingsWith
  dsimp only
  obtain ⟨noted, -, ran⟩ := run_noteIf _ _ _ storage
  rw [ran]
  rfl

theorem run_settingsWith_open
    (isOpen : (heldAt entries Setting.apiKey.name).isTruthy = true) (storage : Storage ρ) :
    ∃ noted, SameButLog noted storage ∧
      ((settingsWith cipher store entries (heldAt entries Setting.apiKey.name, true)).run
          storage).1 =
        ((migrate cipher store (withOpenKey entries)).run noted).1.map fun _ =>
          withOpenKey entries := by
  unfold settingsWith withOpenKey
  dsimp only
  obtain ⟨noted, same, ran⟩ := run_noteIf _ _ _ storage
  refine ⟨noted, same, ?_⟩
  rw [ran, if_pos rfl, if_pos isOpen, run_bind]
  rcases ExceptT.run (migrate _ _ _) noted with ⟨_ | _, after⟩ <;> rfl

theorem run_keyOf_of_sealed
    (isSealed : (heldAt entries sealedName).isTruthy = true) (storage : Storage ρ) :
    ((keyOf cipher store entries).run storage).1 =
      match ((store.vault.decrypt cipher (heldAt entries sealedName)).run storage).1 with
      | .ok key => .ok (.text key, false)
      | .error fault => if fault.isBadValue then .ok (.text "", false) else .error fault := by
  unfold heldAt at isSealed ⊢
  unfold keyOf
  dsimp only
  rw [if_pos isSealed, run_tryCatch, run_bind]
  rcases ExceptT.run (Vault.decrypt _ _ _) storage with ⟨fault | key, after⟩
  · dsimp only
    cases fault.isBadValue <;> rfl
  · rfl

theorem run_keyOf_of_unsealed
    (notSealed : (heldAt entries sealedName).isTruthy = false) (storage : Storage ρ) :
    ∃ noted, SameButLog noted storage ∧
      (keyOf cipher store entries).run storage =
        (.ok (if (heldAt entries Setting.apiKey.name).isTruthy then
          (heldAt entries Setting.apiKey.name, true) else (.text "", false)), noted) := by
  unfold heldAt at notSealed ⊢
  unfold keyOf
  dsimp only
  rw [notSealed, if_neg (by decide)]
  by_cases isOpen : ((entries.valueOf? Setting.apiKey.name).getD .null).isTruthy = true
  · rw [if_pos isOpen, if_pos isOpen]
    exact ⟨_, sameButLog_note _ storage, rfl⟩
  · rw [if_neg isOpen, if_neg isOpen]
    exact ⟨storage, .rfl, rfl⟩

theorem run_settingsOf_of_closed
    (key : Except Fault Value)
    (given : ((keyOf cipher store entries).run storage).1 = key.map (·, false)) :
    ((settingsOf cipher store entries).run storage).1 =
      key.map fun value => keyed entries (present? value) := by
  rw [settingsOf_eq, run_bind]
  rcases ran : (keyOf cipher store entries).run storage with ⟨result, after⟩
  rw [ran] at given
  cases key with
  | error fault =>
      cases given
      rfl
  | ok value =>
      cases given
      exact run_settingsWith_closed value after

/-- What was recorded before does not change the settings. -/
theorem run_settingsOf
    {key : Except Fault (Option Value)} (gives : GivesKey cipher store storage entries key)
    (same : SameButLog other storage) :
    ((settingsOf cipher store entries).run other).1 = key.map (keyed entries) := by
  have sameOpening :=
    (Vault.passesOverLog_decrypt cipher store.vault (heldAt entries sealedName) same).1
  cases gives with
  | opened isSealed opens =>
      exact run_settingsOf_of_closed (.ok _)
        ((run_keyOf_of_sealed isSealed other).trans (by rw [sameOpening, opens]; rfl))
  | passedOver isSealed refused bad =>
      exact run_settingsOf_of_closed (.ok (.text ""))
        ((run_keyOf_of_sealed isSealed other).trans
          (by rw [sameOpening, refused]; exact if_pos bad))
  | unopened isSealed refused bad =>
      exact run_settingsOf_of_closed (.error _)
        ((run_keyOf_of_sealed isSealed other).trans
          (by rw [sameOpening, refused]; exact if_neg (Bool.eq_false_iff.mp bad)))
  | plain notSealed isOpen saved =>
      obtain ⟨noted, sameNoted, ran⟩ := run_keyOf_of_unsealed notSealed other
      obtain ⟨ready, sameReady, given⟩ := run_settingsWith_open isOpen noted
      have sameSaving := (passesOverLog_save cipher store (withOpenKey entries)
        ((sameReady.trans sameNoted).trans same)).1
      rw [settingsOf_eq, run_bind, ran, if_pos isOpen]
      dsimp only
      rw [given, run_migrate_of_saved (by rwa [sameSaving])]
      rfl
  | unsealed notSealed isOpen refused otherwise =>
      obtain ⟨noted, sameNoted, ran⟩ := run_keyOf_of_unsealed notSealed other
      obtain ⟨ready, sameReady, given⟩ := run_settingsWith_open isOpen noted
      have sameSaving := (passesOverLog_save cipher store (withOpenKey entries)
        ((sameReady.trans sameNoted).trans same)).1
      rw [settingsOf_eq, run_bind, ran, if_pos isOpen]
      dsimp only
      rw [given, run_migrate_of_refused (by rwa [sameSaving]) otherwise]
      rfl
  | absent notSealed notOpen =>
      obtain ⟨noted, sameNoted, ran⟩ := run_keyOf_of_unsealed notSealed other
      rw [notOpen] at ran
      exact run_settingsOf_of_closed (.ok (.text "")) (congrArg Prod.fst ran)

end SettingsStore

end QuoteDesk
