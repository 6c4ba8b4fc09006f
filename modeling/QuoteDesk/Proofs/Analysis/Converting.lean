import QuoteDesk.Analysis.Payload
import QuoteDesk.Proofs.Analysis.Form
import QuoteDesk.Proofs.Directive.Plain
import QuoteDesk.Proofs.Json.Reading
import QuoteDesk.Proofs.Number.Whole

/-!
# What a payload is converted to

Each line of a payload that is accepted orders a whole number of units of an article,
and it becomes one line of the bill of materials.  All of the analysis that is shown
later can be written.
-/

namespace QuoteDesk

open Number Text

/-! ## Orders -/

/-- A line orders units of an article: the number of the article is a text, which is
taken without the blanks around it, and the units are a whole number, however it is
written. -/
structure Value.Orders (line : Value) (sku : String) (n : Int) : Prop where
  article : ∃ s, line.field? "sku" = some (.text s) ∧ trimText s = sku
  quantity : line.field? "quantity" = some (.int n) ∨
    ∃ x, line.field? "quantity" = some (.float x) ∧ x.toRat? = some (n : Rat)

theorem Value.Orders.unique
    {line : Value} {sku otherSku : String} {n m : Int}
    (first : line.Orders sku n) (second : line.Orders otherSku m) : sku = otherSku ∧ n = m := by
  obtain ⟨s, article, rfl⟩ := first.article
  obtain ⟨t, otherArticle, rfl⟩ := second.article
  cases article.symm.trans otherArticle
  refine ⟨rfl, ?_⟩
  rcases first.quantity with whole | ⟨x, float, cut⟩
  · rcases second.quantity with otherWhole | ⟨y, otherFloat, _⟩
    · cases whole.symm.trans otherWhole
      rfl
    · cases whole.symm.trans otherFloat
  · rcases second.quantity with otherWhole | ⟨y, otherFloat, otherCut⟩
    · cases float.symm.trans otherWhole
    · cases float.symm.trans otherFloat
      exact Rat.intCast_injective (Option.some.inj (cut.symm.trans otherCut))

/-- A line of a bill of materials that comes from an order. -/
structure BomLine.Converts (line : Value) (converted : BomLine) : Prop where
  ordered : ∃ sku n, line.Orders sku n ∧ 1 ≤ n ∧ n.natAbs < 10 ^ digitLimit ∧
    converted.sku = .text sku ∧ converted.quantity = .int n
  description : ∃ s, converted.description = .text s
  reasoning : ∃ s, converted.reasoning = .text s

theorem Value.field_of_field?
    {value part : Value} {name : String} (stated : value.field? name = some part)
    (default : Value) : value.field name default = part := by
  rw [Value.field, stated, Option.getD_some]

namespace Analysis

/-! ## One line -/

/-- An admitted line names an article. -/
theorem exists_article_of_lineSchema
    {line : Value} (fits : lineSchema.Admits .compared line) :
    ∃ s, line.field? "sku" = some (.text s) ∧ s ≠ "" := by
  obtain ⟨entries, rfl, required, parts⟩ := Schema.admits_ofObject_iff.mp fits
  obtain ⟨article, found⟩ := required "sku" (by decide)
  obtain ⟨s, rfl, filled⟩ := Schema.admits_ofText_iff.mp
    (parts ("sku", .ofText true) (by simp) article found)
  exact ⟨s, found, filled rfl⟩

theorem optional_text_of_lineSchema
    {line : Value} (fits : lineSchema.Admits .compared line) {name : String}
    (optional : name = "description" ∨ name = "reasoning") :
    line.field? name = none ∨ ∃ s, line.field? name = some (.text s) := by
  obtain ⟨entries, rfl, _, parts⟩ := Schema.admits_ofObject_iff.mp fits
  cases found : (Value.dict entries).field? name with
  | none => exact .inl rfl
  | some part =>
      obtain ⟨s, rfl, _⟩ := Schema.admits_ofText_iff.mp
        (parts (name, .ofText false) (by rcases optional with rfl | rfl <;> simp) part found)
      exact .inr ⟨s, rfl⟩

/-- The quantity of a line is a whole number, and all of its digits are kept. -/
theorem exists_count_of_lineSchema
    {line : Value} (fits : lineSchema.Admits .compared line) :
    ∃ quantity n, line.field? "quantity" = some quantity ∧ quantityOf quantity = .int n ∧
      quantity.real? = some (n : ℚ) ∧ 1 ≤ n ∧
        (quantity = .int n ∨ (∃ x, quantity = .float x) ∧ n.natAbs < 10 ^ digitLimit) := by
  obtain ⟨entries, rfl, required, parts⟩ := Schema.admits_ofObject_iff.mp fits
  obtain ⟨quantity, found⟩ := required "quantity" (by decide)
  obtain ⟨integer, bounded, _⟩ := Schema.admits_ofNumber_iff.mp
    (parts ("quantity", .ofNumber .integer (some 1) none) (by simp) quantity found)
  obtain ⟨n, known, written⟩ := Schema.exists_real?_of_integer integer
  rcases written with rfl | ⟨x, rfl, truncated, short⟩
  · have least := (Schema.compared_atLeast_iff known).mp (bounded 1 rfl rfl)
    exact ⟨_, n, found, rfl, known, by exact_mod_cast least, .inl rfl⟩
  · have least := (Schema.compared_atLeast_iff known).mp (bounded 1 rfl rfl)
    refine ⟨_, n, found, ?_, known, by exact_mod_cast least, .inr ⟨⟨x, rfl⟩, short⟩⟩
    rw [quantityOf, truncated]
    rfl

theorem exists_order_of_lineSchema
    {line : Value} (fits : lineSchema.Admits .compared line) (writable : line.Writable) :
    ∃ s quantity n,
      line.field? "sku" = some (.text s) ∧ line.field? "quantity" = some quantity ∧
        quantityOf quantity = .int n ∧ line.Orders (trimText s) n ∧ 1 ≤ n ∧
        n.natAbs < 10 ^ digitLimit := by
  obtain ⟨s, article, _⟩ := exists_article_of_lineSchema fits
  obtain ⟨quantity, n, found, counted, known, least, written⟩ := exists_count_of_lineSchema fits
  obtain ⟨entries, rfl, _⟩ := Schema.admits_ofObject_iff.mp fits
  rcases written with rfl | ⟨⟨x, rfl⟩, short⟩
  · have short : n.natAbs < 10 ^ digitLimit :=
      Value.writable_int_iff.mp (writable.lookup found)
    exact ⟨s, _, n, article, found, counted, ⟨⟨s, article, rfl⟩, .inl found⟩, least, short⟩
  · exact ⟨s, _, n, article, found, counted, ⟨⟨s, article, rfl⟩, .inr ⟨x, found, known⟩⟩,
      least, short⟩

theorem exists_text_of_displayed
    {value shown : Value} (made : displayed value = .ok shown) : ∃ s, shown = .text s := by
  obtain ⟨s, _, told⟩ := exists_of_bind_eq_ok made
  cases told
  exact ⟨s, rfl⟩

theorem eq_of_build_eq_ok
    {sku description quantity confidence reasoning : Value} {line : BomLine}
    (made : BomLine.build sku description quantity confidence reasoning = .ok line) :
    line = ⟨sku, description, quantity, confidence, reasoning⟩ := by
  obtain ⟨x, _, rest⟩ := exists_of_bind_eq_ok made
  split at rest
  · cases rest
    rfl
  · obtain ⟨_, _, thrown⟩ := exists_of_bind_eq_ok rest
    cases thrown

/-- A converted line says what the checked one does. -/
theorem converts_of_convertLine
    {line : Value} {converted : BomLine} (fits : lineSchema.Admits .compared line)
    (writable : line.Writable) (made : convertLine line = .ok converted) :
    converted.Converts line := by
  obtain ⟨s, quantity, n, article, quantityFound, counted, orders, least, short⟩ :=
    exists_order_of_lineSchema fits writable
  obtain ⟨sku, skuShown, rest⟩ := exists_of_bind_eq_ok made
  obtain ⟨description, described, rest⟩ := exists_of_bind_eq_ok rest
  obtain ⟨confidence, _, rest⟩ := exists_of_bind_eq_ok rest
  obtain ⟨reasoning, reasoned, built⟩ := exists_of_bind_eq_ok rest
  rw [Value.field_of_field? article] at skuShown
  cases skuShown
  rw [eq_of_build_eq_ok built]
  refine ⟨⟨_, n, orders, least, short, rfl, ?_⟩, exists_text_of_displayed described,
    exists_text_of_displayed reasoned⟩
  dsimp only
  rw [Value.field_of_field? quantityFound, counted]

/-! ## A whole payload -/

/-- The lines in a mapping, each as it stands there. -/
def linesIn (entries : Entries) : List Value :=
  itemsOf (((Value.dict entries).field "bom" .null).field "lineItems" .null)

theorem exists_lines_of_admits
    {entries : Entries} {reading : Schema.Reading}
    (fits : schema.Admits reading (.dict entries)) :
    ∃ bom, entries.lookup "bom" = some (.dict bom) ∧
      bom.lookup "lineItems" = some (.list (linesIn entries)) ∧
        ∀ line ∈ linesIn entries, lineSchema.Admits reading line := by
  obtain ⟨_, same, required, parts⟩ := Schema.admits_ofObject_iff.mp fits
  cases same
  obtain ⟨value, bomFound⟩ := required "bom" (by decide)
  have bomFits := parts ("bom", _) (by simp; rfl) value bomFound
  obtain ⟨bom, rfl, bomRequired, bomParts⟩ := Schema.admits_ofObject_iff.mp bomFits
  obtain ⟨value, itemsFound⟩ := bomRequired "lineItems" (by decide)
  obtain ⟨items, rfl, itemsFit⟩ := Schema.admits_ofItems_iff.mp
    (bomParts ("lineItems", .ofItems lineSchema) (by simp) value itemsFound)
  have same : linesIn entries = items := by
    have bomPart : (Value.dict entries).field? "bom" = some (.dict bom) := bomFound
    have itemsPart : (Value.dict bom).field? "lineItems" = some (.list items) := itemsFound
    rw [linesIn, Value.field_of_field? bomPart, Value.field_of_field? itemsPart, itemsOf]
  rw [same]
  exact ⟨bom, bomFound, itemsFound, itemsFit⟩

theorem partOf_of_lookup
    {entries part : Entries} {name : String} (found : entries.lookup name = some (.dict part)) :
    partOf entries name = .dict part := by
  rw [partOf, Entries.valueOf?, found, Option.getD_some, orElse]
  cases part with
  | nil => rfl
  | cons entry rest => rfl

/-- An optional part of a mapping is a mapping that can be written. -/
theorem exists_dict_partOf
    {entries : Entries} {name : String} (writable : (Value.dict entries).Writable)
    (fits : ∀ part, entries.lookup name = some part →
      (Schema.ofObject [] []).Admits .compared part) :
    ∃ part, partOf entries name = .dict part ∧ (Value.dict part).Writable := by
  cases found : entries.lookup name with
  | none =>
      refine ⟨[], ?_, Value.writable_dict_iff.mpr (List.forall_mem_nil _)⟩
      rw [partOf, Entries.valueOf?, found]
      rfl
  | some value =>
      obtain ⟨part, rfl, -⟩ := Schema.admits_ofObject_iff.mp (fits value found)
      exact ⟨part, partOf_of_lookup found, writable.lookup found⟩

theorem convertTotal_plain (total : Value) :
    (convertTotal total).1 = .null ∨ ∃ d, (convertTotal total).1 = .decimal d := by
  unfold convertTotal
  split
  · exact .inr ⟨_, rfl⟩
  · split
    · exact .inl rfl
    · exact .inl rfl
    · exact .inl rfl

/-- The lines of a payload, each as it stands there. -/
def linesOf (payload : Value) : List Value :=
  match mappingOf payload with
  | .ok entries => itemsOf (((Value.dict entries).field "bom" .null).field "lineItems" .null)
  | .error _ => []

/-- An analysis whose lines come from some orders and all of which can be written. -/
structure Converts (lines : List Value) (analysis : Analysis) : Prop where
  lines : List.Forall₂ (fun line converted => converted.Converts line) lines analysis.bom.lines
  total : analysis.bom.total = .null ∨ ∃ d, analysis.bom.total = .decimal d
  spec : ∃ part, analysis.spec = .dict part ∧ (Value.dict part).Writable
  infrastructure : ∃ part, analysis.infrastructure = .dict part ∧ (Value.dict part).Writable

/-- What the parts of an analysis are made of. -/
theorem parts_of_convert
    {entries : Entries} {analysis : Analysis} {log : List LogRecord}
    (fits : schema.Admits .compared (.dict entries))
    (made : convert entries = .ok (analysis, log)) :
    (linesIn entries).mapM convertLine = .ok analysis.bom.lines ∧
      (∃ total, analysis.bom.total = (convertTotal total).1) ∧
      analysis.spec = partOf entries "buildingSpec" ∧
      analysis.infrastructure = partOf entries "infrastructure" := by
  obtain ⟨bom, bomFound, itemsFound, _⟩ := exists_lines_of_admits fits
  have itemsPart : (Value.dict bom).field? "lineItems" = some (.list (linesIn entries)) :=
    itemsFound
  rw [convert, partOf_of_lookup bomFound, Value.field_of_field? itemsPart, itemsOf] at made
  obtain ⟨lines, linesMade, told⟩ := exists_of_bind_eq_ok made
  cases told
  exact ⟨linesMade, ⟨_, rfl⟩, rfl, rfl⟩

/-- A converted analysis has one line for each line that is checked. -/
theorem converts_of_convert
    {entries : Entries} {analysis : Analysis} {log : List LogRecord}
    (fits : schema.Admits .compared (.dict entries)) (writable : (Value.dict entries).Writable)
    (made : convert entries = .ok (analysis, log)) : analysis.Converts (linesIn entries) := by
  obtain ⟨bom, bomFound, itemsFound, itemsFit⟩ := exists_lines_of_admits fits
  obtain ⟨linesMade, ⟨total, totalMade⟩, specMade, infrastructureMade⟩ := parts_of_convert fits made
  obtain ⟨_, same, _, parts⟩ := Schema.admits_ofObject_iff.mp fits
  cases same
  have itemsWritable : ∀ item ∈ linesIn entries, item.Writable :=
    Value.writable_list_iff.mp ((writable.lookup bomFound).lookup itemsFound)
  constructor
  · have checked : List.Forall₂ (fun item line =>
        (lineSchema.Admits .compared item ∧ item.Writable) ∧ convertLine item = .ok line)
        (linesIn entries) analysis.bom.lines :=
      (List.forall₂_and_left _ _).mpr ⟨fun item member =>
        ⟨itemsFit item member, itemsWritable item member⟩, forall₂_of_mapM linesMade⟩
    refine checked.imp ?_
    rintro item line ⟨⟨itemFits, itemWritable⟩, lineMade⟩
    exact converts_of_convertLine itemFits itemWritable lineMade
  · rw [totalMade]
    exact convertTotal_plain total
  · rw [specMade]
    exact exists_dict_partOf writable (parts ("buildingSpec", .ofObject [] []) (by simp))
  · rw [infrastructureMade]
    exact exists_dict_partOf writable (parts ("infrastructure", .ofObject [] []) (by simp))

theorem writable_of_readText
    {chars : List Char} {entries : Entries} (given : readText chars = .ok entries) :
    (Value.dict entries).Writable := by
  unfold readText at given
  dsimp only at given
  split at given
  · cases given
  · split at given
    · rename_i found whole
      cases given
      exact Json.writable_of_read whole
    · cases given
    · cases given
    · cases given

section Checked

variable {validator : Validator} (lawful : validator.Lawful)
include lawful

/-- The check passes what the schema admits by its comparisons. -/
theorem checkForm_eq_ok_iff {entries : Entries} :
    checkForm validator entries = .ok () ↔ schema.Admits .compared (.dict entries) := by
  rw [← (lawful.tells schema (.dict entries)).iff, checkForm]
  rcases validator.breach? schema (.dict entries) with fault | ⟨⟨⟩ | breach⟩
  · refine iff_of_false ?_ ?_ <;> rintro ⟨⟩
  · exact iff_of_true rfl rfl
  · refine iff_of_false ?_ ?_ <;> rintro ⟨⟩

/-- What is read was a mapping that the schema admits, and it was converted. -/
theorem exists_convert_of_read
    {payload : Value} {analysis : Analysis} {log : List LogRecord}
    (given : readWith validator payload = .ok (analysis, log)) :
    ∃ entries, mappingOf payload = .ok entries ∧ schema.Admits .compared (.dict entries) ∧
      convert entries = .ok (analysis, log) := by
  obtain ⟨entries, mapped, rest⟩ := exists_of_bind_eq_ok given
  obtain ⟨_, checked, converted⟩ := exists_of_bind_eq_ok rest
  refine ⟨entries, mapped, (checkForm_eq_ok_iff lawful).mp checked, ?_⟩
  cases made : convert entries with
  | error fault =>
      rw [made] at converted
      cases converted
  | ok result =>
      rw [made] at converted
      cases converted
      rfl

/-- What is read from a text or from bytes becomes an analysis of its lines. -/
theorem converts_of_read
    {payload : Value} (textual : (∃ s, payload = .text s) ∨ ∃ data, payload = .bytes data)
    {analysis : Analysis} {log : List LogRecord}
    (given : readWith validator payload = .ok (analysis, log)) :
    analysis.Converts (linesOf payload) := by
  obtain ⟨entries, mapped, fits, made⟩ := exists_convert_of_read lawful given
  have writable : (Value.dict entries).Writable := by
    rcases textual with ⟨s, rfl⟩ | ⟨data, rfl⟩
    · rw [mappingOf] at mapped
      exact writable_of_readText mapped
    · rw [mappingOf] at mapped
      exact writable_of_readText mapped
  rw [linesOf, mapped]
  exact converts_of_convert fits writable made

end Checked

end Analysis

end QuoteDesk
