import QuoteDesk.Proofs.Analysis.Report

/-!
# Lines without a confidence

A binary number that is none passes the bounds of a confidence, because no comparison
tells that it is outside.  A line with such a confidence is let through by the check and
refused when it is converted; every other line that is let through is converted.
-/

namespace QuoteDesk

open Number Text

/-- The confidence of a line is stated as a binary number that is none. -/
def Value.Unmeasured (line : Value) : Prop :=
  line.field? "confidence" = some (.float .notANumber)

namespace Analysis

/-- The refusal of a confidence that is no number. -/
def unmeasuredFault : Fault :=
  .badValue "confidence must be within [0, 1], got nan"

/-! ## Admission -/

/-- The comparisons of the schema let more pass than its numbers allow only in a confidence that
is no number. -/
theorem lineSchema_admits_real_iff {line : Value} :
    lineSchema.Admits .real line ↔ lineSchema.Admits .compared line ∧ ¬ line.Unmeasured := by
  constructor
  · intro fits
    refine ⟨fits.compared_of_real, fun unmeasured => ?_⟩
    obtain ⟨entries, rfl, _, parts⟩ := Schema.admits_ofObject_iff.mp fits
    obtain ⟨_, least, _⟩ := Schema.admits_ofNumber_iff.mp
      (parts ("confidence", .ofNumber .number (some 0) (some 1)) (by simp) _ unmeasured)
    obtain ⟨r, known, _⟩ := least 0 rfl rfl
    cases known
  · rintro ⟨fits, measured⟩
    obtain ⟨entries, rfl, required, parts⟩ := Schema.admits_ofObject_iff.mp fits
    refine Schema.admits_ofObject_iff.mpr ⟨entries, rfl, required, ?_⟩
    intro property member part found
    have partFits := parts property member part found
    simp only [List.mem_cons, List.not_mem_nil, or_false] at member
    rcases member with rfl | rfl | rfl | rfl | rfl
    · exact Schema.admits_ofText_iff.mpr (Schema.admits_ofText_iff.mp partFits)
    · exact Schema.admits_ofText_iff.mpr (Schema.admits_ofText_iff.mp partFits)
    · exact partFits.real_of_integer
    · refine (Schema.admits_share_iff.mp partFits).resolve_right ?_
      rintro rfl
      exact measured found
    · exact Schema.admits_ofText_iff.mpr (Schema.admits_ofText_iff.mp partFits)

theorem admits_anyMapping_iff {value : Value} {reading : Schema.Reading} :
    (Schema.ofObject [] []).Admits reading value ↔ ∃ entries, value = .dict entries := by
  rw [Schema.admits_ofObject_iff]
  constructor
  · rintro ⟨entries, rfl, _⟩
    exact ⟨entries, rfl⟩
  · rintro ⟨entries, rfl⟩
    exact ⟨entries, rfl, List.forall_mem_nil _, List.forall_mem_nil _⟩

/-- Bounds that no comparison tells to be passed hold of the numbers, but for the
confidences that are none. -/
theorem schema_admits_real_iff {entries : Entries} :
    schema.Admits .real (.dict entries) ↔
      schema.Admits .compared (.dict entries) ∧ ∀ line ∈ linesIn entries, ¬ line.Unmeasured := by
  constructor
  · intro fits
    obtain ⟨_, _, _, linesFit⟩ := exists_lines_of_admits fits
    exact ⟨fits.compared_of_real,
      fun line member => (lineSchema_admits_real_iff.mp (linesFit line member)).2⟩
  · rintro ⟨fits, measured⟩
    obtain ⟨bom, bomFound, itemsFound, linesFit⟩ := exists_lines_of_admits fits
    obtain ⟨_, same, required, parts⟩ := Schema.admits_ofObject_iff.mp fits
    cases same
    refine Schema.admits_ofObject_iff.mpr ⟨entries, rfl, required, ?_⟩
    intro property member part found
    have partFits := parts property member part found
    simp only [List.mem_cons, List.not_mem_nil, or_false] at member
    rcases member with rfl | rfl | rfl
    · exact admits_anyMapping_iff.mpr (admits_anyMapping_iff.mp partFits)
    · exact admits_anyMapping_iff.mpr (admits_anyMapping_iff.mp partFits)
    · cases bomFound.symm.trans found
      obtain ⟨_, same, bomRequired, bomParts⟩ := Schema.admits_ofObject_iff.mp partFits
      cases same
      refine Schema.admits_ofObject_iff.mpr ⟨bom, rfl, bomRequired, ?_⟩
      intro property member part found
      have partFits := bomParts property member part found
      simp only [List.mem_cons, List.not_mem_nil, or_false] at member
      rcases member with rfl | rfl
      · cases itemsFound.symm.trans found
        refine Schema.admits_ofItems_iff.mpr ⟨linesIn entries, rfl, fun line member => ?_⟩
        exact lineSchema_admits_real_iff.mpr ⟨linesFit line member, measured line member⟩
      · obtain ⟨costs, rfl, costsRequired, costsParts⟩ := Schema.admits_ofObject_iff.mp partFits
        refine Schema.admits_ofObject_iff.mpr ⟨costs, rfl, costsRequired, ?_⟩
        intro property member part found
        have partFits := costsParts property member part found
        rw [List.mem_singleton] at member
        subst member
        exact Schema.admits_ofTypes_iff.mpr (Schema.admits_ofTypes_iff.mp partFits)

/-! ## Confidences -/

theorem exists_share_of_real?
    {value : Value} {r : ℚ} (known : value.real? = some r) (least : 0 ≤ r) (greatest : r ≤ 1) :
    ∃ x, value.toBinary64 = .ok x ∧ x.IsShare := by
  cases value with
  | int n =>
      cases known
      have low : 0 ≤ n := by exact_mod_cast least
      have high : n ≤ 1 := by exact_mod_cast greatest
      rcases (by omega : n = 0 ∨ n = 1) with rfl | rfl
      · exact ⟨_, rfl, Binary64.isShare_zero false⟩
      · exact ⟨_, rfl, Binary64.isShare_ofRatio Nat.one_pos le_rfl⟩
  | float x => exact ⟨x, rfl, r, known, least, greatest⟩
  | decimal d =>
      cases d with
      | finite negative coefficient exponent =>
          exact ⟨_, rfl, Binary64.isShare_ofDecimal known least greatest⟩
      | infinite negative => cases known
      | nan negative signalling payload => cases known
  | _ => cases known

section Lines

variable {line sku description quantity reasoning : Value}

/-- A share is taken as the confidence of a line. -/
theorem build_of_share {x : Binary64} (share : x.IsShare) :
    BomLine.build sku description quantity (.float x) reasoning =
      .ok ⟨sku, description, quantity, .float x, reasoning⟩ := by
  have within : BomLine.isShare x = true := isShare_iff.mpr share
  rw [BomLine.build, show (Value.float x).toBinary64 = .ok x from rfl]
  change (if BomLine.isShare x = true then _ else _) = _
  rw [if_pos within]
  rfl

theorem build_of_notANumber (sku description quantity reasoning : Value) :
    BomLine.build sku description quantity (.float .notANumber) reasoning =
      .error unmeasuredFault :=
  rfl

theorem exists_displayed_of_texts {first second : Value}
    (texts : (∃ s, first = .text s) ∨ first = .null) (spare : ∃ s, second = .text s) :
    ∃ shown, displayed (orElse first second) = .ok shown := by
  obtain ⟨t, rfl⟩ := spare
  rcases texts with ⟨s, rfl⟩ | rfl
  · unfold orElse
    split
    · exact ⟨_, rfl⟩
    · exact ⟨_, rfl⟩
  · exact ⟨_, rfl⟩

/-- All but the confidence of a line that is let through is converted. -/
theorem exists_convertLine_eq (fits : lineSchema.Admits .compared line) :
    ∃ sku description quantity reasoning, convertLine line = (do
      let confidence ← (line.field "confidence" (.float (.zero false))).toBinary64
      BomLine.build sku description quantity (.float confidence) reasoning) := by
  have optional : ∀ name, name = "description" ∨ name = "reasoning" →
      (∃ s, line.field name .null = .text s) ∨ line.field name .null = .null := by
    intro name known
    rcases optional_text_of_lineSchema fits known with absent | ⟨s, stated⟩
    · rw [Value.field, absent]
      exact .inr rfl
    · exact .inl ⟨s, Value.field_of_field? stated _⟩
  obtain ⟨s, articleStated, _⟩ := exists_article_of_lineSchema fits
  have articleField : line.field "sku" .null = .text s :=
    Value.field_of_field? articleStated .null
  obtain ⟨description, described⟩ :=
    exists_displayed_of_texts (optional "description" (.inl rfl)) ⟨s, articleField⟩
  obtain ⟨reasoning, reasoned⟩ :=
    exists_displayed_of_texts (optional "reasoning" (.inr rfl)) ⟨"", rfl⟩
  refine ⟨.text (trimText s), description, quantityOf (line.field "quantity" .null), reasoning, ?_⟩
  rw [convertLine, described, reasoned, articleField]
  rfl

/-- A line that the schema admits by its numbers is converted. -/
theorem exists_convertLine_of_real (fits : lineSchema.Admits .real line) :
    ∃ converted, convertLine line = .ok converted := by
  have share : ∃ x, (line.field "confidence" (.float (.zero false))).toBinary64 = .ok x ∧
      x.IsShare := by
    obtain ⟨entries, rfl, _, parts⟩ := Schema.admits_ofObject_iff.mp fits
    cases found : (Value.dict entries).field? "confidence" with
    | none =>
        rw [Value.field, found]
        exact ⟨_, rfl, Binary64.isShare_zero false⟩
    | some part =>
        rw [Value.field_of_field? found]
        obtain ⟨number, least, greatest⟩ := Schema.admits_ofNumber_iff.mp
          (parts ("confidence", .ofNumber .number (some 0) (some 1)) (by simp) part found)
        obtain ⟨r, known, low⟩ := least 0 rfl number
        obtain ⟨_, same, high⟩ := greatest 1 rfl number
        cases known.symm.trans same
        exact exists_share_of_real? known (by exact_mod_cast low) (by exact_mod_cast high)
  obtain ⟨x, read, isShare⟩ := share
  obtain ⟨sku, description, quantity, reasoning, same⟩ :=
    exists_convertLine_eq fits.compared_of_real
  rw [same, read]
  exact ⟨_, build_of_share isShare⟩

theorem convertLine_of_unmeasured
    (fits : lineSchema.Admits .compared line) (unmeasured : line.Unmeasured) :
    convertLine line = .error unmeasuredFault := by
  obtain ⟨sku, description, quantity, reasoning, same⟩ := exists_convertLine_eq fits
  rw [same, Value.field_of_field? unmeasured]
  exact build_of_notANumber sku description quantity reasoning

end Lines

/-! ## Conversion -/

theorem mapM_convertLine_of_measured
    {lines : List Value} (fit : ∀ line ∈ lines, lineSchema.Admits .real line) :
    ∃ converted, lines.mapM convertLine = .ok converted := by
  refine exists_mapM_iff.mpr fun line member => ?_
  exact exists_convertLine_of_real (fit line member)

/-- The first line whose confidence is no number ends the conversion. -/
theorem mapM_convertLine_of_unmeasured
    {lines : List Value} (fit : ∀ line ∈ lines, lineSchema.Admits .compared line)
    (refused : ∃ line ∈ lines, line.Unmeasured) :
    lines.mapM convertLine = .error unmeasuredFault := by
  induction lines with
  | nil =>
      obtain ⟨line, member, _⟩ := refused
      cases member
  | cons line rest inductionHypothesis =>
      obtain ⟨lineFits, restFit⟩ := List.forall_mem_cons.mp fit
      rw [List.mapM_cons]
      by_cases unmeasured : line.Unmeasured
      · rw [convertLine_of_unmeasured lineFits unmeasured]
        rfl
      · obtain ⟨converted, made⟩ :=
          exists_convertLine_of_real (lineSchema_admits_real_iff.mpr ⟨lineFits, unmeasured⟩)
        obtain ⟨other, member, otherUnmeasured⟩ := refused
        have later : other ∈ rest := by
          refine (List.mem_cons.mp member).resolve_left ?_
          rintro rfl
          exact unmeasured otherUnmeasured
        rw [made, inductionHypothesis restFit ⟨other, later, otherUnmeasured⟩]
        rfl

section Whole

variable {entries : Entries}

theorem exists_convert_of_real (fits : schema.Admits .real (.dict entries)) :
    ∃ result, convert entries = .ok result := by
  obtain ⟨bom, bomFound, itemsFound, linesFit⟩ := exists_lines_of_admits fits
  have itemsPart : (Value.dict bom).field? "lineItems" = some (.list (linesIn entries)) :=
    itemsFound
  rw [convert, partOf_of_lookup bomFound, Value.field_of_field? itemsPart, itemsOf]
  exact exists_ok_of_bind (mapM_convertLine_of_measured linesFit) fun _ _ => ⟨_, rfl⟩

/-- One line with a confidence that is no number ends the conversion. -/
theorem convert_of_unmeasured
    (fits : schema.Admits .compared (.dict entries))
    (refused : ∃ line ∈ linesIn entries, line.Unmeasured) :
    convert entries = .error unmeasuredFault := by
  obtain ⟨bom, bomFound, itemsFound, linesFit⟩ := exists_lines_of_admits fits
  have itemsPart : (Value.dict bom).field? "lineItems" = some (.list (linesIn entries)) :=
    itemsFound
  rw [convert, partOf_of_lookup bomFound, Value.field_of_field? itemsPart, itemsOf,
    mapM_convertLine_of_unmeasured linesFit refused]
  rfl

end Whole

end Analysis

end QuoteDesk
