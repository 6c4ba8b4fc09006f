import QuoteDesk.Proofs.Analysis.Converting

/-!
# The mapping in a payload

A payload is a mapping, or a text or bytes that write one in JSON, with blanks around it
and perhaps between code fences.
-/

namespace QuoteDesk

open Text

namespace Analysis

/-! ## Code fences -/

/-- A text stands between code fences.  A name of the language behind the first one
belongs to the fence whenever it is there. -/
inductive Encloses (chars body : List Char) : Prop
  | named (name : List Char) (known : name.map foldedLetter = fenceName)
      (split : chars = fence ++ (name ++ (body ++ fence)))
  | nameless (unnamed : ¬ fenceName <+: (body ++ fence).map foldedLetter)
      (split : chars = fence ++ (body ++ fence))

/-- What a text holds without one code fence around it. -/
def Unwraps (chars inner : List Char) : Prop :=
  (∃ body, Encloses chars body ∧ inner = trim body) ∨
    (∀ body, ¬ Encloses chars body) ∧ inner = chars

/-- What follows an opening fence, without the name of the language. -/
private def behindName (rest : List Char) : List Char :=
  if fenceName.isPrefixOf (rest.map foldedLetter) then rest.drop fenceName.length else rest

theorem encloses_iff {chars body : List Char} :
    Encloses chars body ↔ ∃ rest, chars = fence ++ rest ∧ behindName rest = body ++ fence := by
  unfold behindName
  constructor
  · rintro (⟨name, known, rfl⟩ | ⟨unnamed, rfl⟩)
    · refine ⟨_, rfl, ?_⟩
      have length : name.length = fenceName.length := by
        rw [← known, List.length_map]
      have named : fenceName.isPrefixOf ((name ++ (body ++ fence)).map foldedLetter) = true := by
        rw [List.isPrefixOf_iff_prefix, List.map_append, known]
        exact List.prefix_append _ _
      rw [if_pos named, ← length, List.drop_left]
    · refine ⟨_, rfl, ?_⟩
      rw [if_neg fun named => unnamed (List.isPrefixOf_iff_prefix.mp named)]
  · rintro ⟨rest, rfl, same⟩
    by_cases named : fenceName.isPrefixOf (rest.map foldedLetter) = true
    · rw [if_pos named] at same
      refine .named (rest.take fenceName.length) ?_ ?_
      · rw [List.map_take]
        exact (List.prefix_iff_eq_take.mp (List.isPrefixOf_iff_prefix.mp named)).symm
      · rw [← same, List.take_append_drop]
    · rw [if_neg named] at same
      rw [same] at named ⊢
      exact .nameless (fun prefixed => named (List.isPrefixOf_iff_prefix.mpr prefixed)) rfl

theorem Encloses.unique
    {chars body other : List Char} (first : Encloses chars body) (second : Encloses chars other) :
    body = other := by
  obtain ⟨rest, rfl, same⟩ := encloses_iff.mp first
  obtain ⟨again, split, otherSame⟩ := encloses_iff.mp second
  cases List.append_cancel_left split
  exact List.append_cancel_right (same.symm.trans otherSame)

/-- What is found between fences is what the fences stand around. -/
theorem unwraps_unfenced (chars : List Char) : Unwraps chars (unfenced chars) := by
  unfold unfenced
  by_cases opened : fence.isPrefixOf chars = true
  · obtain ⟨rest, rfl⟩ := List.isPrefixOf_iff_prefix.mp opened
    rw [if_pos opened, List.drop_left]
    change Unwraps _ (if fence.isSuffixOf (behindName rest) then
      trim ((behindName rest).take ((behindName rest).length - fence.length)) else fence ++ rest)
    by_cases closed : fence.isSuffixOf (behindName rest) = true
    · obtain ⟨body, same⟩ := List.isSuffixOf_iff_suffix.mp closed
      rw [if_pos closed, ← same, List.length_append, Nat.add_sub_cancel, List.take_left]
      exact .inl ⟨body, encloses_iff.mpr ⟨rest, rfl, same.symm⟩, rfl⟩
    · rw [if_neg closed]
      refine .inr ⟨fun body encloses => closed ?_, rfl⟩
      obtain ⟨again, split, same⟩ := encloses_iff.mp encloses
      cases List.append_cancel_left split
      rw [List.isSuffixOf_iff_suffix, same]
      exact List.suffix_append _ _
  · rw [if_neg opened]
    refine .inr ⟨fun body encloses => opened ?_, rfl⟩
    obtain ⟨rest, rfl, _⟩ := encloses_iff.mp encloses
    exact List.isPrefixOf_iff_prefix.mpr (List.prefix_append _ _)

theorem Unwraps.eq_unfenced {chars inner : List Char} (unwraps : Unwraps chars inner) :
    inner = unfenced chars := by
  rcases unwraps with ⟨body, encloses, rfl⟩ | ⟨bare, rfl⟩
  · rcases unwraps_unfenced chars with ⟨other, otherEncloses, same⟩ | ⟨bare, _⟩
    · rw [same, encloses.unique otherEncloses]
    · exact absurd encloses (bare body)
  · rcases unwraps_unfenced inner with ⟨other, encloses, _⟩ | ⟨_, same⟩
    · exact absurd encloses (bare other)
    · exact same.symm

/-! ## Payloads -/

/-- The fault of a payload that is no analysis, with its reason. -/
def refusal (reason : String) : Fault :=
  .session (.because .analysisPayload SessionFaultKind.analysisPayload.wording
    [("reason", .text reason)])

/-- The characters of a text or of bytes. -/
inductive Spells : Value → List Char → Prop
  | text (s : String) : Spells (.text s) s.toList
  | bytes (data : List UInt8) : Spells (.bytes data) (Utf8.decodeLossy data)

/-- A payload writes some JSON, after the blanks around it and a code fence are taken
off. -/
def Writes (payload : Value) (source : String) : Prop :=
  ∃ chars inner, Spells payload chars ∧ Unwraps (trim chars) inner ∧ source = String.ofList inner

/-- A payload is a mapping or writes one. -/
def Decodes (payload : Value) (entries : Entries) : Prop :=
  payload = .dict entries ∨
    ∃ source, Writes payload source ∧ Json.read source = .ok (.dict entries)

theorem unfenced_nil : unfenced [] = [] := rfl

theorem read_empty : Json.read "" = .error (.malformed .valueExpected 1 1 0) := rfl

section Texts

variable {chars : List Char} {entries : Entries}

/-- A text is read as the mapping that stands between its fences. -/
theorem readText_eq_ok_iff :
    readText chars = .ok entries ↔
      Json.read (String.ofList (unfenced (trim chars))) = .ok (.dict entries) := by
  unfold readText
  by_cases blank : (trim chars).isEmpty = true
  · have nothing : trim chars = [] := List.isEmpty_iff.mp blank
    rw [if_pos blank, nothing, unfenced_nil]
    refine iff_of_false nofun ?_
    change Json.read "" ≠ _
    rw [read_empty]
    exact nofun
  · rw [if_neg blank]
    constructor
    · intro given
      split at given
      · rename_i found whole
        cases given
        exact whole
      all_goals cases given
    · intro whole
      rw [whole]

theorem readText_of_givesUp
    {refused : Json.Fault}
    (whole : Json.read (String.ofList (unfenced (trim chars))) = .error refused)
    (givesUp : Json.GivesUp refused) : readText chars = .error (.other (.json refused)) := by
  unfold readText
  by_cases blank : (trim chars).isEmpty = true
  · rw [List.isEmpty_iff.mp blank, unfenced_nil] at whole
    cases read_empty.symm.trans whole
    rcases givesUp with deep | ⟨n, long⟩
    · cases deep
    · cases long
  · rw [if_neg blank, whole]
    rcases givesUp with rfl | ⟨n, rfl⟩
    · rfl
    · rfl

theorem refuses_of_malformed (what : Json.Problem) :
    ∃ reason, reason ≠ "" ∧ (PayloadFault.malformed what).toFault = refusal reason :=
  ⟨_, Schema.append_ne_empty_of_left (by decide) _, rfl⟩

theorem readText_eq_error {fault : PayloadFault} (failed : readText chars = .error fault) :
    (∃ reason, reason ≠ "" ∧ fault.toFault = refusal reason) ∨
      ∃ refused, Json.read (String.ofList (unfenced (trim chars))) = .error refused ∧
        fault.toFault = .json refused ∧ Json.GivesUp refused := by
  unfold readText at failed
  by_cases blank : (trim chars).isEmpty = true
  · rw [if_pos blank] at failed
    cases failed
    exact .inl ⟨_, by decide, rfl⟩
  · rw [if_neg blank] at failed
    split at failed
    · cases failed
    · cases failed
      exact .inl ⟨_, by decide, rfl⟩
    · rename_i what _ _ _ _
      cases failed
      exact .inl (refuses_of_malformed what)
    · rename_i refused notMalformed whole
      cases failed
      refine .inr ⟨refused, whole, rfl, ?_⟩
      cases refused with
      | malformed what line column index => exact absurd rfl (notMalformed what line column index)
      | number n => exact .inr ⟨n, rfl⟩
      | tooDeep => exact .inl rfl

end Texts

/-! ### Every kind of payload -/

section Payloads

variable {payload : Value} {entries : Entries} {source : String}

theorem Spells.mappingOf_eq {chars : List Char} (spells : Spells payload chars) :
    mappingOf payload = readText chars := by
  cases spells with
  | text s => rfl
  | bytes data => rfl

theorem Writes.exists_chars (writes : Writes payload source) :
    ∃ chars, mappingOf payload = readText chars ∧
      source = String.ofList (unfenced (trim chars)) := by
  obtain ⟨chars, inner, spells, unwraps, rfl⟩ := writes
  exact ⟨chars, spells.mappingOf_eq, by rw [unwraps.eq_unfenced]⟩

theorem writes_of_spells {chars : List Char} (spells : Spells payload chars) :
    Writes payload (String.ofList (unfenced (trim chars))) :=
  ⟨chars, _, spells, unwraps_unfenced _, rfl⟩

/-- A payload is a mapping, or its characters are read, or it counts as empty. -/
theorem mappingOf_cases (payload : Value) :
    (∃ entries, payload = .dict entries ∧ mappingOf payload = .ok entries) ∨
      (∃ chars, Spells payload chars ∧ mappingOf payload = readText chars) ∨
        mappingOf payload = .error .empty := by
  cases payload with
  | dict entries => exact .inl ⟨entries, rfl, rfl⟩
  | text s => exact .inr (.inl ⟨_, .text s, rfl⟩)
  | bytes data => exact .inr (.inl ⟨_, .bytes data, rfl⟩)
  | _ => exact .inr (.inr rfl)

/-- The mapping of a payload is what the payload is decoded to. -/
theorem mappingOf_eq_ok_iff : mappingOf payload = .ok entries ↔ Decodes payload entries := by
  constructor
  · intro given
    rcases mappingOf_cases payload with ⟨_, rfl, same⟩ | ⟨chars, spells, same⟩ | same
    · cases same.symm.trans given
      exact .inl rfl
    · exact .inr ⟨_, writes_of_spells spells, readText_eq_ok_iff.mp (same.symm.trans given)⟩
    · cases same.symm.trans given
  · rintro (rfl | ⟨source, writes, whole⟩)
    · rfl
    · obtain ⟨chars, same, rfl⟩ := writes.exists_chars
      exact same.trans (readText_eq_ok_iff.mpr whole)

theorem mappingOf_eq_error {fault : PayloadFault} (failed : mappingOf payload = .error fault) :
    (∃ reason, reason ≠ "" ∧ fault.toFault = refusal reason) ∨
      ∃ source refused, Writes payload source ∧ Json.read source = .error refused ∧
        fault.toFault = .json refused ∧ Json.GivesUp refused := by
  rcases mappingOf_cases payload with ⟨_, _, same⟩ | ⟨chars, spells, same⟩ | same
  · cases same.symm.trans failed
  · rcases readText_eq_error (same.symm.trans failed) with refuses | ⟨refused, whole, told⟩
    · exact .inl refuses
    · exact .inr ⟨_, refused, writes_of_spells spells, whole, told⟩
  · cases same.symm.trans failed
    exact .inl ⟨_, by decide, rfl⟩

theorem mappingOf_of_givesUp
    {refused : Json.Fault} (writes : Writes payload source)
    (whole : Json.read source = .error refused) (givesUp : Json.GivesUp refused) :
    mappingOf payload = .error (.other (.json refused)) := by
  obtain ⟨chars, same, rfl⟩ := writes.exists_chars
  exact same.trans (readText_of_givesUp whole givesUp)

end Payloads

end Analysis

end QuoteDesk
