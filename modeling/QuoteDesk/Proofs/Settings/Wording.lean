import QuoteDesk.Proofs.Number.Literals
import QuoteDesk.Settings.Override

/-!
# Texts for values of settings

For every kind of setting a relation says which texts write which value, and the reader
takes these texts.  Two sorts of texts for a mapping are treated otherwise: a text of
another JSON value is taken as that value, and on brackets nested too deeply the reader
gives up.  Any other text is refused.
-/

namespace QuoteDesk

open Number Text

/-- A value of a kind.  A mapping may be absent. -/
inductive SettingKind.Holds : SettingKind → Value → Prop
  | text (s : String) : Holds .text (.text s)
  | flag (b : Bool) : Holds .flag (.bool b)
  | whole (n : Int) : Holds .whole (.int n)
  | real (x : Binary64) : Holds .real (.float x)
  | mapping (entries : Entries) : Holds .mapping (.dict entries)
  | noMapping : Holds .mapping .null
  | nothing : Holds .nothing .null
  | other (s : String) : Holds .other (.text s)
  | noOther : Holds .other .null

namespace Override

/-! ## Texts of values -/

/-- A text that stands for no value. -/
def Nothing (s : String) : Prop :=
  lowercase s = "none" ∨ lowercase s = "null"

/-- A text without blanks around it that writes a value of a kind. -/
inductive Writes : SettingKind → String → Value → Prop
  | text (s : String) : Writes .text s (.text s)
  | yes {s : String} (word : lowercase s ∈ yesWords) : Writes .flag s (.bool true)
  | no {s : String} (word : lowercase s ∈ noWords) : Writes .flag s (.bool false)
  | whole {s : String} {n : Int} (written : WritesWhole (plainChars s.toList) n) :
      Writes .whole s (.int n)
  | real {s : String} {x : Binary64} (written : Binary64.Writes (plainChars s.toList) x) :
      Writes .real s (.float x)
  | noMapping {s : String} (nothing : Nothing s) : Writes .mapping s .null
  | emptyMapping : Writes .mapping "" (.dict [])
  | mapping {s : String} {entries : Entries} (some : ¬ Nothing s)
      (json : Json.read s = .ok (.dict entries)) : Writes .mapping s (.dict entries)
  | nothing (s : String) : Writes .nothing s .null
  | noOther {s : String} (nothing : Nothing s) : Writes .other s .null
  | other {s : String} (some : ¬ Nothing s) : Writes .other s (.text s)

/-- A text for a mapping that writes another JSON value. -/
structure Strays (kind : SettingKind) (s : String) (value : Value) : Prop where
  kind : kind = .mapping
  some : ¬ Nothing s
  json : Json.read s = .ok value
  other : ∀ entries, value ≠ .dict entries

/-- A text for a mapping that nests brackets too deeply. -/
structure TooDeep (kind : SettingKind) (s : String) : Prop where
  kind : kind = .mapping
  some : ¬ Nothing s
  json : Json.read s = .error .tooDeep

theorem meansNothing_iff {s : String} : meansNothing s = true ↔ Nothing s := by
  simp [meansNothing, Nothing]

theorem read_empty : ∃ what line column index,
    Json.read "" = .error (.malformed what line column index) :=
  ⟨_, _, _, _, rfl⟩

theorem trimText_trimText (s : String) : trimText (trimText s) = trimText s := by
  rw [trimText, trimText, String.toList_ofList, trim_trim]

/-- Words that mean yes do not mean no. -/
theorem noWord_of_yesWord : ∀ word ∈ noWords, word ∉ yesWords := by decide

variable {kind : SettingKind} {source : String} {value : Value} {fault : Fault}

theorem readFlag_trimText :
    readFlag (trimText source) =
      if lowercase (trimText source) ∈ yesWords then .ok (.bool true)
      else if lowercase (trimText source) ∈ noWords then .ok (.bool false)
      else .error (.badValue ("Cannot coerce '" ++ trimText source ++ "' to a boolean.")) := by
  rw [readFlag, trimText_trimText]
  simp only [List.contains_iff_mem]

theorem readMapping_empty : readMapping "" = .ok (.dict []) := rfl

theorem readMapping_of_ne {s : String} (some : s ≠ "") :
    readMapping s =
      match Json.read s with
      | .ok value => .ok value
      | .error (.malformed _ _ _ _) =>
        .error (.badValue "Dict overrides must be valid JSON objects")
      | .error fault => .error (.json fault) := by
  unfold readMapping
  rewrite [if_neg (by simpa using some)]
  rfl

theorem not_nothing_empty : ¬ Nothing "" := by
  unfold Nothing
  decide +kernel

/-- What is taken for a mapping from a text that stands for some value. -/
theorem readMapping_eq_ok_iff {s : String} (some : ¬ Nothing s) :
    readMapping s = .ok value ↔ Writes .mapping s value ∨ Strays .mapping s value := by
  by_cases empty : s = ""
  · subst empty
    obtain ⟨what, line, column, index, refused⟩ := read_empty
    rw [readMapping_empty]
    constructor
    · rintro ⟨⟩
      exact .inl .emptyMapping
    · rintro (written | strays)
      · cases written with
        | noMapping nothing => exact absurd nothing some
        | emptyMapping => rfl
        | mapping _ json => cases refused.symm.trans json
      · cases refused.symm.trans strays.json
  · rw [readMapping_of_ne empty]
    constructor
    · intro given
      cases json : Json.read s with
      | error refused =>
          rw [json] at given
          cases refused <;> cases given
      | ok found =>
          rw [json] at given
          cases given
          by_cases isMapping : ∃ entries, value = .dict entries
          · obtain ⟨entries, rfl⟩ := isMapping
            exact .inl (.mapping some json)
          · exact .inr ⟨rfl, some, json, fun entries same => isMapping ⟨entries, same⟩⟩
    · rintro (written | strays)
      · cases written with
        | noMapping nothing => exact absurd nothing some
        | emptyMapping => exact absurd rfl empty
        | mapping _ json => rw [json]
      · rw [strays.json]

theorem readFlag_eq_ok_iff :
    readFlag (trimText source) = .ok value ↔ Writes .flag (trimText source) value := by
  rw [readFlag_trimText]
  generalize trimText source = trimmed
  constructor
  · intro given
    split_ifs at given with yes no
    · cases given
      exact .yes yes
    · cases given
      exact .no no
  · intro written
    cases written with
    | yes word => exact if_pos word
    | no word => rw [if_neg (noWord_of_yesWord _ word), if_pos word]

theorem readWhole_eq_ok_iff {s : String} : readWhole s = .ok value ↔ Writes .whole s value := by
  unfold readWhole
  constructor
  · intro given
    split at given
    · rename_i n read
      cases given
      exact .whole (readInteger_eq_ok_iff.mp read)
    · cases given
  · intro written
    cases written with
    | whole written => rw [readInteger_eq_ok_iff.mpr written]

theorem readReal_eq_ok_iff {s : String} : readReal s = .ok value ↔ Writes .real s value := by
  unfold readReal
  constructor
  · intro given
    split at given
    · rename_i x read
      cases given
      exact .real (Binary64.read?_eq_some_iff.mp read)
    · cases given
  · intro written
    cases written with
    | real written => rw [Binary64.read?_eq_some_iff.mpr written]

theorem readValue_mapping_iff :
    readValue .mapping source = .ok value ↔
      Writes .mapping (trimText source) value ∨ Strays .mapping (trimText source) value := by
  unfold readValue
  generalize trimText source = trimmed
  dsimp only
  by_cases nothing : Nothing trimmed
  · rw [if_pos (meansNothing_iff.mpr nothing)]
    constructor
    · rintro ⟨⟩
      exact .inl (.noMapping nothing)
    · rintro (written | strays)
      · cases written with
        | noMapping _ => rfl
        | emptyMapping => exact absurd nothing not_nothing_empty
        | mapping some _ => exact absurd nothing some
      · exact absurd nothing strays.some
  · rw [if_neg (mt meansNothing_iff.mp nothing)]
    exact readMapping_eq_ok_iff nothing

theorem readValue_other_iff :
    readValue .other source = .ok value ↔ Writes .other (trimText source) value := by
  unfold readValue
  generalize trimText source = trimmed
  dsimp only
  by_cases nothing : Nothing trimmed
  · rw [if_pos (meansNothing_iff.mpr nothing)]
    constructor
    · rintro ⟨⟩
      exact .noOther nothing
    · intro written
      cases written with
      | noOther _ => rfl
      | other some => exact absurd nothing some
  · rw [if_neg (mt meansNothing_iff.mp nothing)]
    constructor
    · rintro ⟨⟩
      exact .other nothing
    · intro written
      cases written with
      | noOther found => exact absurd found nothing
      | other _ => rfl

theorem readValue_text_iff :
    readValue .text source = .ok value ↔ Writes .text (trimText source) value := by
  unfold readValue
  generalize trimText source = trimmed
  constructor
  · rintro ⟨⟩
    exact .text trimmed
  · rintro ⟨⟩
    rfl

theorem readValue_nothing_iff :
    readValue .nothing source = .ok value ↔ Writes .nothing (trimText source) value := by
  unfold readValue
  generalize trimText source = trimmed
  constructor
  · rintro ⟨⟩
    exact .nothing trimmed
  · rintro ⟨⟩
    rfl

/-- A text is read as the value that it writes, or as one that strays from its kind. -/
theorem readValue_eq_ok_iff :
    readValue kind source = .ok value ↔
      Writes kind (trimText source) value ∨ Strays kind (trimText source) value := by
  by_cases mapped : kind = .mapping
  · subst mapped
    exact readValue_mapping_iff
  · rw [or_iff_left fun strays => mapped strays.kind]
    cases kind with
    | mapping => exact absurd rfl mapped
    | flag =>
        change readFlag (trimText source) = _ ↔ _
        exact readFlag_eq_ok_iff
    | whole =>
        change readWhole (trimText source) = _ ↔ _
        exact readWhole_eq_ok_iff
    | real =>
        change readReal (trimText source) = _ ↔ _
        exact readReal_eq_ok_iff
    | other => exact readValue_other_iff
    | text => exact readValue_text_iff
    | nothing => exact readValue_nothing_iff

theorem readMapping_eq_error
    {s : String} (some : ¬ Nothing s) (failed : readMapping s = .error fault) :
    fault.kind = "ValueError" ∨ TooDeep .mapping s ∧ fault = .json .tooDeep := by
  have notEmpty : s ≠ "" := by
    rintro rfl
    cases failed
  rw [readMapping_of_ne notEmpty] at failed
  cases json : Json.read s with
  | ok value =>
      rw [json] at failed
      cases failed
  | error refused =>
      rw [json] at failed
      cases refused with
      | malformed what line column index =>
          cases failed
          exact .inl rfl
      | number long =>
          cases failed
          exact .inl rfl
      | tooDeep =>
          cases failed
          exact .inr ⟨⟨rfl, some, json⟩, rfl⟩

/-- A text is refused because it writes no value, unless the reader gives up on it. -/
theorem readValue_eq_error (failed : readValue kind source = .error fault) :
    fault.kind = "ValueError" ∨ TooDeep kind (trimText source) ∧ fault = .json .tooDeep := by
  unfold readValue at failed
  generalize trimText source = trimmed at failed
  cases kind with
  | text => cases failed
  | nothing => cases failed
  | flag =>
      unfold readFlag at failed
      dsimp only at failed
      split_ifs at failed
      cases failed
      exact .inl rfl
  | whole =>
      simp only [readWhole] at failed
      split at failed
      · cases failed
      · cases failed
        exact .inl rfl
  | real =>
      simp only [readReal] at failed
      split at failed
      · cases failed
      · cases failed
        exact .inl rfl
  | other => cases failed
  | mapping =>
      dsimp only at failed
      split_ifs at failed with nothing
      exact readMapping_eq_error (mt meansNothing_iff.mpr nothing) failed

theorem readValue_of_tooDeep (deep : TooDeep kind (trimText source)) :
    readValue kind source = .error (.json .tooDeep) := by
  obtain ⟨rfl, some, json⟩ := deep
  unfold readValue
  generalize trimText source = trimmed at some json
  have notEmpty : trimmed ≠ "" := by
    rintro rfl
    cases json
  dsimp only
  rw [if_neg (mt meansNothing_iff.mp some), readMapping_of_ne notEmpty, json]

theorem Writes.holds (written : Writes kind source value) : kind.Holds value := by
  cases written <;> constructor

end Override

end QuoteDesk
