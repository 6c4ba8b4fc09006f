import QuoteDesk.Proofs.Analysis.Confidence
import QuoteDesk.Proofs.Analysis.Decoding

/-!
# What becomes of a payload

Whatever lawful validator checks it, a payload is read exactly when it decodes to a mapping
that the schema admits with all bounds read over the rational numbers.  Any other payload is
refused with a reason, but for those on which the reader gives up, those with a confidence
that is no number, and mappings whose breach cannot be told.
-/

namespace QuoteDesk

open Number

namespace Analysis

/-- A payload raises a fault that is no refusal: the reader gives up on it, or nothing is
wrong with it but a confidence that is no number. -/
inductive Escapes (payload : Value) : Fault → Prop
  | unread {source : String} {refused : Json.Fault} (writes : Writes payload source)
      (whole : Json.read source = .error refused) (givesUp : Json.GivesUp refused) :
      Escapes payload (.json refused)
  | unmeasured {entries : Entries} (decodes : Decodes payload entries)
      (fits : schema.Admits .compared (.dict entries))
      (refused : ∃ line ∈ linesIn entries, line.Unmeasured) :
      Escapes payload unmeasuredFault

section Outcomes

variable {validator : Validator} {payload : Value} {entries : Entries}

/-! ## Checked mappings -/

theorem checkForm_eq_error
    (lawful : validator.Lawful) {fault : PayloadFault}
    (failed : checkForm validator entries = .error fault) :
    (∃ reason, reason ≠ "" ∧ fault.toFault = refusal reason) ∨
      Schema.Untold (.dict entries) fault.toFault := by
  have told := lawful.tells schema (.dict entries)
  unfold checkForm at failed
  split at failed
  · rename_i other known
    rw [known] at told
    cases failed
    exact .inr told.2
  · rename_i breach known
    rw [known] at told
    cases failed
    exact .inl ⟨_, Breach.line_ne_empty told.2, rfl⟩
  · cases failed

/-! ## Whole payloads -/

theorem readWith_eq_of_mappingOf (mapped : mappingOf payload = .ok entries) :
    readWith validator payload = (do
      checkForm validator entries
      (convert entries).mapError .other) := by
  rw [readWith, mapped]
  rfl

theorem exists_readWith_of_real
    (lawful : validator.Lawful) (decodes : Decodes payload entries)
    (fits : schema.Admits .real (.dict entries)) :
    ∃ result, readWith validator payload = .ok result := by
  obtain ⟨result, converted⟩ := exists_convert_of_real fits
  refine ⟨result, ?_⟩
  rw [readWith_eq_of_mappingOf (mappingOf_eq_ok_iff.mpr decodes),
    (checkForm_eq_ok_iff lawful).mpr fits.compared_of_real, converted]
  rfl

theorem readWith_of_escapes
    (lawful : validator.Lawful) {fault : Fault} (escapes : Escapes payload fault) :
    readWith validator payload = .error (.other fault) := by
  cases escapes with
  | unread writes whole givesUp =>
      rw [readWith, mappingOf_of_givesUp writes whole givesUp]
      rfl
  | unmeasured decodes fits refused =>
      rw [readWith_eq_of_mappingOf (mappingOf_eq_ok_iff.mpr decodes),
        (checkForm_eq_ok_iff lawful).mpr fits, convert_of_unmeasured fits refused]
      rfl

/-- Only the breach of a payload that is a mapping itself can be left untold. -/
theorem exists_dict_of_untold
    {fault : Fault} (decodes : Decodes payload entries)
    (untold : Schema.Untold (.dict entries) fault) : payload = .dict entries := by
  rcases decodes with same | ⟨source, _, whole⟩
  · exact same
  · exact absurd (Json.isJson_of_read whole) untold.not_isJson

/-- A payload is admitted, or its reading escapes or is refused. -/
theorem readWith_cases (lawful : validator.Lawful) (payload : Value) :
    (∃ entries, Decodes payload entries ∧ schema.Admits .real (.dict entries)) ∨
      (∃ fault, Escapes payload fault) ∨
        ∃ fault, readWith validator payload = .error fault ∧
          ((∃ reason, reason ≠ "" ∧ fault.toFault = refusal reason) ∨
            ∃ entries, payload = .dict entries ∧
              Schema.Untold (.dict entries) fault.toFault) := by
  cases mapped : mappingOf payload with
  | error fault =>
      rcases mappingOf_eq_error mapped with refuses | ⟨source, refused, writes, whole, _, givesUp⟩
      · refine .inr (.inr ⟨fault, ?_, .inl refuses⟩)
        rw [readWith, mapped]
        rfl
      · exact .inr (.inl ⟨_, .unread writes whole givesUp⟩)
  | ok entries =>
      have decodes : Decodes payload entries := mappingOf_eq_ok_iff.mp mapped
      have same := @readWith_eq_of_mappingOf validator _ _ mapped
      cases checked : checkForm validator entries with
      | error fault =>
          refine .inr (.inr ⟨fault, ?_, ?_⟩)
          · rw [same, checked]
            rfl
          · rcases checkForm_eq_error lawful checked with refuses | untold
            · exact .inl refuses
            · exact .inr ⟨entries, exists_dict_of_untold decodes untold, untold⟩
      | ok _ =>
          have fits : schema.Admits .compared (.dict entries) :=
            (checkForm_eq_ok_iff lawful).mp checked
          by_cases measured : ∀ line ∈ linesIn entries, ¬ line.Unmeasured
          · exact .inl ⟨entries, decodes, schema_admits_real_iff.mpr ⟨fits, measured⟩⟩
          · have refused : ∃ line ∈ linesIn entries, line.Unmeasured := by
              simpa only [not_forall, not_not, exists_prop] using measured
            exact .inr (.inl ⟨_, .unmeasured decodes fits refused⟩)

end Outcomes

/-- With any lawful validator a payload is read exactly when it decodes to a mapping that the
schema admits, its bounds read over the rational numbers.  Otherwise it is refused with a
reason, unless it escapes: then its own fault is raised.  Mappings that hold what no JSON text
holds may also raise that their breach cannot be told. -/
theorem readWith_returns_or_refuses_or_escapes
    {validator : Validator} (lawful : validator.Lawful) (payload : Value) :
    ((∃ result, readWith validator payload = .ok result) ↔
      ∃ entries, Decodes payload entries ∧ schema.Admits .real (.dict entries)) ∧
    (∀ raised, readWith validator payload = .error raised →
      (∃ reason, reason ≠ "" ∧ raised.toFault = refusal reason) ∨
        Escapes payload raised.toFault ∨
          ∃ entries, payload = .dict entries ∧ Schema.Untold (.dict entries) raised.toFault) ∧
    ∀ fault, Escapes payload fault →
      ∃ raised, readWith validator payload = .error raised ∧ raised.toFault = fault := by
  refine ⟨⟨?_, ?_⟩, ?_, ?_⟩
  · rintro ⟨result, given⟩
    rcases readWith_cases lawful payload with fits | ⟨fault, escapes⟩ | ⟨fault, failed, _⟩
    · exact fits
    · cases given.symm.trans (readWith_of_escapes lawful escapes)
    · cases given.symm.trans failed
  · rintro ⟨entries, decodes, fits⟩
    exact exists_readWith_of_real lawful decodes fits
  · intro raised failed
    rcases readWith_cases lawful payload with
      ⟨entries, decodes, fits⟩ | ⟨fault, escapes⟩ | ⟨fault, same, told⟩
    · obtain ⟨result, given⟩ := exists_readWith_of_real lawful decodes fits
      cases given.symm.trans failed
    · cases (readWith_of_escapes lawful escapes).symm.trans failed
      exact .inr (.inl escapes)
    · cases same.symm.trans failed
      rcases told with refuses | untold
      · exact .inl refuses
      · exact .inr (.inr untold)
  · intro fault escapes
    exact ⟨_, readWith_of_escapes lawful escapes, rfl⟩

/-- The validator of the program is lawful, so payloads are answered in no other way. -/
theorem read_returns_or_refuses_or_escapes (payload : Value) :
    ((∃ result, read payload = .ok result) ↔
      ∃ entries, Decodes payload entries ∧ schema.Admits .real (.dict entries)) ∧
    (∀ raised, read payload = .error raised →
      (∃ reason, reason ≠ "" ∧ raised.toFault = refusal reason) ∨
        Escapes payload raised.toFault ∨
          ∃ entries, payload = .dict entries ∧ Schema.Untold (.dict entries) raised.toFault) ∧
    ∀ fault, Escapes payload fault →
      ∃ raised, read payload = .error raised ∧ raised.toFault = fault :=
  readWith_returns_or_refuses_or_escapes Validator.lawful_draft7 payload

/-- A confidence that is no number passes the check, and its fault is no refusal. -/
theorem not_every_payload_answered :
    ¬ ∀ payload, (∃ result, read payload = .ok result) ∨
      ∃ raised reason, read payload = .error raised ∧ reason ≠ "" ∧
        raised.toFault = refusal reason := by
  intro answered
  have kind : (match read (.text ("\x7b\"bom\":\x7b\"lineItems\":[" ++
        "\x7b\"sku\":\"A\",\"quantity\":1,\"confidence\":NaN\x7d]\x7d\x7d")) with
      | .ok _ => ""
      | .error raised => raised.toFault.kind) = "ValueError" := by
    decide +kernel
  have unnamed : "" ≠ "ValueError" := by decide
  have refusalKind : "AnalysisPayloadError" ≠ "ValueError" := by decide
  rcases answered _ with ⟨result, given⟩ | ⟨raised, reason, refused, _, told⟩
  · rw [given] at kind
    exact unnamed kind
  · rw [refused] at kind
    dsimp only at kind
    rw [told] at kind
    exact refusalKind kind

end Analysis

end QuoteDesk
