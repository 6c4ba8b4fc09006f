import QuoteDesk.Analysis.Report
import QuoteDesk.Proofs.Analysis.Converting

/-!
# An analysis that was read can be shown

The document about an analysis mentions parts that come from the payload.  Nothing in
a payload is too long to be written, so there is always a document.
-/

namespace QuoteDesk

open Number

theorem Value.Writable.exists_shownText
    {value : Value} (writable : value.Writable) :
    ∃ s, value.display.mapError Fault.number = .ok s := by
  obtain ⟨s, shown⟩ := writable.exists_display
  rw [shown]
  exact ⟨s, rfl⟩

theorem Value.writable_text (s : String) : (Value.text s).Writable :=
  ⟨_, by rw [Value.shown]⟩

namespace Analysis

/-! ## The parts of the document -/

theorem exists_fieldText
    {entries : Entries} (writable : (Value.dict entries).Writable) (name : String)
    {default : Value} (spare : default.Writable) :
    ∃ s, fieldText (.dict entries) name default = .ok s :=
  (writable.field spare).exists_shownText

theorem exists_accessLines
    {infrastructure : Entries} (writable : (Value.dict infrastructure).Writable) :
    ∃ lines, accessLines (.dict infrastructure) = .ok lines := by
  have zero : (Value.int 0).Writable := Value.writable_int_iff.mpr (Nat.pow_pos (by decide))
  have absent : Value.null.Writable := ⟨_, by rw [Value.shown]⟩
  refine exists_ok_of_bind ⟨_, rfl⟩ fun access found => ?_
  cases found
  have accessWritable := @Value.Writable.field infrastructure "access_control" .null writable absent
  split
  · rename_i entries known
    rw [known] at accessWritable
    refine exists_ok_of_bind (exists_fieldText accessWritable "readers" zero) fun _ _ => ?_
    refine exists_ok_of_bind (exists_fieldText accessWritable "controllers" zero) fun _ _ => ?_
    exact ⟨_, rfl⟩
  · exact ⟨_, rfl⟩

theorem exists_lineText
    {line : Value} {converted : BomLine} (converts : converted.Converts line) :
    ∃ s, lineText converted = .ok s := by
  obtain ⟨sku, n, _, _, short, _, counted⟩ := converts.ordered
  obtain ⟨description, described⟩ := converts.description
  obtain ⟨reasoning, reasoned⟩ := converts.reasoning
  have quantityWritable : converted.quantity.Writable := by
    rw [counted]
    exact Value.writable_int_iff.mpr short
  unfold lineText
  rw [described, reasoned]
  refine exists_ok_of_bind (Value.writable_text reasoning).exists_shownText fun _ _ => ?_
  refine exists_ok_of_bind (Value.writable_text description).exists_shownText fun _ _ => ?_
  exact exists_ok_of_bind quantityWritable.exists_shownText fun _ _ => ⟨_, rfl⟩

theorem exists_lineTexts
    {lines : List Value} {converted : List BomLine}
    (converts : List.Forall₂ BomLine.Converts lines converted) :
    ∃ texts, converted.mapM lineText = .ok texts := by
  induction converts with
  | nil => exact ⟨[], rfl⟩
  | cons one _ inductionHypothesis =>
      rw [List.mapM_cons]
      refine exists_ok_of_bind (exists_lineText one) fun text _ => ?_
      exact exists_ok_of_bind inductionHypothesis fun texts _ => ⟨text :: texts, rfl⟩

theorem exists_totalText
    {total : Value} (plain : total = .null ∨ ∃ d, total = .decimal d) :
    ∃ s, totalText total = .ok s := by
  rcases plain with rfl | ⟨d, rfl⟩
  · exact ⟨_, rfl⟩
  · exact ⟨_, rfl⟩

theorem exists_bomLines
    {lines : List Value} {analysis : Analysis} (converts : analysis.Converts lines) :
    ∃ shown, bomLines analysis.bom = .ok shown := by
  unfold bomLines
  split
  · exact ⟨_, rfl⟩
  · refine exists_ok_of_bind (exists_lineTexts converts.lines) fun _ _ => ?_
    exact exists_ok_of_bind (exists_totalText converts.total) fun _ _ => ⟨_, rfl⟩

/-- There is a document about every analysis that was converted. -/
theorem Converts.exists_report
    {lines : List Value} {analysis : Analysis} (converts : analysis.Converts lines) :
    ∃ text, analysis.report = .ok text := by
  obtain ⟨spec, specDict, specWritable⟩ := converts.spec
  obtain ⟨infrastructure, infrastructureDict, infrastructureWritable⟩ := converts.infrastructure
  have field : ∀ name, ∃ s, fieldText analysis.spec name (.text "N/A") = .ok s := by
    intro name
    rw [specDict]
    exact exists_fieldText specWritable name (Value.writable_text "N/A")
  have access : ∃ lines, accessLines analysis.infrastructure = .ok lines := by
    rw [infrastructureDict]
    exact exists_accessLines infrastructureWritable
  unfold report
  refine exists_ok_of_bind (field "type") fun _ _ => ?_
  refine exists_ok_of_bind (field "floors") fun _ _ => ?_
  refine exists_ok_of_bind (field "users") fun _ _ => ?_
  refine exists_ok_of_bind (field "entrances") fun _ _ => ?_
  refine exists_ok_of_bind access fun _ _ => ?_
  exact exists_ok_of_bind (exists_bomLines converts) fun _ _ => ⟨_, rfl⟩

end Analysis

end QuoteDesk
