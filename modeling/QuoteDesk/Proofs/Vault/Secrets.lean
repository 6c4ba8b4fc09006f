import QuoteDesk.Proofs.File.Storage
import QuoteDesk.Vault

/-!
# Secrets of the vault

A secret is refused for a value that is not what it has to be, for files that cannot be
used, or because it is no text.  Only the last is a fault of the program.  Records do not
change what the vault does.
-/

namespace QuoteDesk

namespace Vault

open Storage

variable {ρ : Type}

/-- What a vault can have against a secret. -/
inductive Refusal (secret : Value) : Fault → Prop
  | badValue {fault : Fault} (bad : fault.isBadValue = true) : Refusal secret fault
  | file (fault : FileFault) : Refusal secret (.file fault)
  | noText (other : ∀ s, secret ≠ .text s) (part : String) : Refusal secret (noText secret part)

theorem isBadValue_of_readKey {data : List UInt8} {fault : Fault}
    (failed : readKey data = .error fault) : fault.isBadValue = true := by
  unfold readKey at failed
  split at failed
  · split at failed <;> cases failed
    rfl
  · cases failed
    rfl

theorem isBadValue_of_asciiBytes {s : String} {fault : Fault}
    (failed : asciiBytes s = .error fault) : fault.isBadValue = true := by
  unfold asciiBytes at failed
  dsimp only at failed
  split at failed <;> cases failed
  rfl

theorem isBadValue_of_secretText {data : List UInt8} {fault : Fault}
    (failed : secretText data = .error fault) : fault.isBadValue = true := by
  unfold secretText at failed
  split at failed <;> cases failed
  rfl

/-! ## Keys -/

theorem passesOverLog_loadKeyText (cipher : Cipher ρ) (vault : Vault) :
    PassesOverLog (loadKeyText cipher vault) := by
  refine .bind (.change _) fun _ => .get_bind (fun storage => ?_) fun same => by rw [same]
  by_cases there : storage.files.contains vault.keyPath = true
  · rw [if_pos there]
    exact .look _
  · rw [if_neg there]
    exact .bind (.draw _) fun _ => .bind (.replaceFile _ _) fun _ => .pure _

theorem passesOverLog_loadKey (cipher : Cipher ρ) (vault : Vault) :
    PassesOverLog (loadKey cipher vault) :=
  .bind (passesOverLog_loadKeyText cipher vault) fun _ => .settle _

theorem failsOnly_loadKeyText (cipher : Cipher ρ) (vault : Vault) (secret : Value) :
    FailsOnly (Refusal secret) (loadKeyText cipher vault) := by
  refine .bind (.change _ .file) fun _ => .get_bind fun storage => ?_
  by_cases there : storage.files.contains vault.keyPath = true
  · rw [if_pos there]
    refine .look fun files fault failed => ?_
    cases unread : files.read vault.keyPath with
    | ok data => rw [unread] at failed; cases failed
    | error refused =>
        rw [unread] at failed
        cases failed
        exact .file refused
  · rw [if_neg there]
    refine .bind (.draw _) fun _ => .bind ?_ fun _ => .pure _
    exact .replaceFile _ _ .file fun _ => .badValue rfl

theorem failsOnly_loadKey (cipher : Cipher ρ) (vault : Vault) (secret : Value) :
    FailsOnly (Refusal secret) (loadKey cipher vault) := by
  refine .bind (failsOnly_loadKeyText cipher vault secret) fun data => ?_
  exact .settle fun fault failed => .badValue (isBadValue_of_readKey failed)

/-! ## Sealing and opening -/

theorem passesOverLog_encrypt (cipher : Cipher ρ) (vault : Vault) (secret : Value) :
    PassesOverLog (encrypt cipher vault secret) := by
  unfold encrypt
  split
  · exact .pure _
  · refine .bind (passesOverLog_loadKey cipher vault) fun key => ?_
    split
    · exact .bind (.draw _) fun _ => .pure _
    · exact .throw _

theorem passesOverLog_decrypt (cipher : Cipher ρ) (vault : Vault) (token : Value) :
    PassesOverLog (decrypt cipher vault token) := by
  unfold decrypt
  split
  · exact .pure _
  · split
    · dsimp only
      split
      · exact .throw _
      · refine .bind (passesOverLog_loadKey cipher vault) fun key => ?_
        refine .bind (.settle _) fun data => ?_
        split
        · exact .settle _
        · exact .throw _
    · exact .throw _

/-- Sealing fails for one of the listed refusals or not at all. -/
theorem failsOnly_encrypt (cipher : Cipher ρ) (vault : Vault) (secret : Value) :
    FailsOnly (Refusal secret) (encrypt cipher vault secret) := by
  unfold encrypt
  split
  · exact .pure _
  · refine .bind (failsOnly_loadKey cipher vault secret) fun key => ?_
    split
    · exact .bind (.draw _) fun _ => .pure _
    · next other => exact .throw (.noText other _)

/-- Opening fails for one of the listed refusals or not at all. -/
theorem failsOnly_decrypt (cipher : Cipher ρ) (vault : Vault) (token : Value) :
    FailsOnly (Refusal token) (decrypt cipher vault token) := by
  unfold decrypt
  split
  · exact .pure _
  · split
    · dsimp only
      split
      · exact .throw (.badValue rfl)
      · refine .bind (failsOnly_loadKey cipher vault _) fun key => .bind ?_ fun data => ?_
        · exact .settle fun fault failed => .badValue (isBadValue_of_asciiBytes failed)
        · split
          · exact .settle fun fault failed => .badValue (isBadValue_of_secretText failed)
          · exact .throw (.badValue rfl)
    · next other => exact .throw (.noText other _)

end Vault

end QuoteDesk
