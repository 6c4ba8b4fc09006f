import QuoteDesk.Proofs.Analysis.Outcome

/-!
# The lines of an accepted payload

The schema looks at the entries of a payload as they stand there, and the conversion changes
them afterwards.  What the schema asks for survives, whatever the texts are and however the
numbers are written: each entry becomes one line with a description, a whole number of units
and a confidence between zero and one.  Only the number of the article may get lost, because
it is trimmed after the schema has seen that it is not empty.
-/

namespace QuoteDesk

open Number Text

/-- The number of the article of an entry has a visible character. -/
def Value.Named (entry : Value) : Prop :=
  ∃ s, entry.field? "sku" = some (.text s) ∧ ink s.toList ≠ []

/-- The description of an entry is its own one, or the number of its article when it has none
or an empty one. -/
inductive Value.Describes (entry : Value) : String → Prop
  | own {s : String} (stated : entry.field? "description" = some (.text s)) (full : s ≠ "") :
      Describes entry s
  | article {s : String}
      (bare : entry.field? "description" = none ∨ entry.field? "description" = some (.text ""))
      (stated : entry.field? "sku" = some (.text s)) :
      Describes entry s

/-- A line of a bill of materials shows an entry of a payload. -/
structure BomLine.Renders (entry : Value) (line : BomLine) : Prop where
  sku : ∃ s, entry.field? "sku" = some (.text s) ∧ line.sku = .text (trimText s)
  description : ∃ s, entry.Describes s ∧ s ≠ "" ∧ line.description = .text s
  quantity : ∃ (value : Value) (n : Int), entry.field? "quantity" = some value ∧
    value.real? = some (n : ℚ) ∧ 1 ≤ n ∧ line.quantity = .int n
  confidence : ∃ x, line.confidence = .float x ∧ x.IsShare ∧
    (entry.field? "confidence" = none → x = .zero false) ∧
    ∀ value, entry.field? "confidence" = some value → value.toBinary64 = .ok x

theorem trimText_eq_empty_iff {s : String} : trimText s = "" ↔ ink s.toList = [] := by
  rw [trimText, ← trim_eq_nil_iff]
  constructor
  · intro empty
    simpa using congrArg String.toList empty
  · intro nothing
    rw [nothing, String.ofList_nil]

/-- An article number is left after trimming just where the entry is named. -/
theorem BomLine.Renders.sku_ne_empty_iff
    {entry : Value} {line : BomLine} (renders : line.Renders entry) :
    line.sku ≠ .text "" ↔ entry.Named := by
  obtain ⟨s, stated, shown⟩ := renders.sku
  have empty : line.sku = .text "" ↔ ink s.toList = [] := by
    rw [shown, Value.text.injEq, trimText_eq_empty_iff]
  constructor
  · intro full
    exact ⟨s, stated, fun nothing => full (empty.mpr nothing)⟩
  · rintro ⟨t, same, visible⟩ lost
    cases stated.symm.trans same
    exact visible (empty.mp lost)

namespace Analysis

section Entries

variable {entry : Value}

/-! ## One line -/

theorem isShare_of_build
    {sku description quantity reasoning : Value} {x : Binary64} {line : BomLine}
    (made : BomLine.build sku description quantity (.float x) reasoning = .ok line) :
    x.IsShare := by
  obtain ⟨y, read, rest⟩ := exists_of_bind_eq_ok made
  cases read
  split at rest
  · rename_i within
    exact isShare_iff.mp within
  · obtain ⟨_, _, thrown⟩ := exists_of_bind_eq_ok rest
    cases thrown

theorem exists_description_of_lineSchema
    (fits : lineSchema.Admits .compared entry) {shown : Value}
    (described : displayed (orElse (entry.field "description" .null) (entry.field "sku" .null)) =
      .ok shown) :
    ∃ s, entry.Describes s ∧ s ≠ "" ∧ shown = .text s := by
  obtain ⟨article, articleStated, articleFull⟩ := exists_article_of_lineSchema fits
  have articleField : entry.field "sku" .null = .text article :=
    Value.field_of_field? articleStated .null
  rcases optional_text_of_lineSchema fits (.inl rfl) with absent | ⟨s, stated⟩
  · rw [Value.field, absent, articleField] at described
    cases described
    exact ⟨article, .article (.inl absent) articleStated, articleFull, rfl⟩
  · rw [Value.field_of_field? stated, articleField] at described
    by_cases empty : s = ""
    · subst empty
      cases described
      exact ⟨article, .article (.inr stated) articleStated, articleFull, rfl⟩
    · have own : orElse (.text s) (.text article) = .text s := by
        have present : (Value.text s).isTruthy = true := by
          simpa [Value.isTruthy] using empty
        rw [orElse, if_pos present]
      rw [own] at described
      cases described
      exact ⟨s, .own stated empty, empty, rfl⟩

theorem renders_of_convertLine
    {line : BomLine} (fits : lineSchema.Admits .compared entry)
    (made : convertLine entry = .ok line) : line.Renders entry := by
  obtain ⟨article, articleStated, _⟩ := exists_article_of_lineSchema fits
  obtain ⟨quantity, n, quantityStated, counted, known, least, _⟩ := exists_count_of_lineSchema fits
  obtain ⟨sku, skuShown, rest⟩ := exists_of_bind_eq_ok made
  obtain ⟨description, described, rest⟩ := exists_of_bind_eq_ok rest
  obtain ⟨confidence, confided, rest⟩ := exists_of_bind_eq_ok rest
  obtain ⟨reasoning, _, built⟩ := exists_of_bind_eq_ok rest
  rw [Value.field_of_field? articleStated] at skuShown
  cases skuShown
  rw [Value.field_of_field? quantityStated, counted] at built
  have share : confidence.IsShare := isShare_of_build built
  rw [eq_of_build_eq_ok built]
  refine ⟨⟨article, articleStated, rfl⟩, exists_description_of_lineSchema fits described,
    ⟨quantity, n, quantityStated, known, least, rfl⟩, ⟨confidence, rfl, share, ?_, ?_⟩⟩
  · intro absent
    rw [Value.field, absent] at confided
    cases confided
    rfl
  · intro value stated
    rw [Value.field_of_field? stated] at confided
    exact confided

end Entries

/-! ## All lines -/

/-- Each entry of a payload that is accepted becomes one line, in the same order, and the line
shows it.  The number of the article is lost exactly when the entry states nothing but
blanks. -/
theorem readWith_renders_entries
    {validator : Validator} (lawful : validator.Lawful)
    {payload : Value} {analysis : Analysis} {log : List LogRecord}
    (given : readWith validator payload = .ok (analysis, log)) :
    ∃ entries bom items, Decodes payload entries ∧ entries.lookup "bom" = some (.dict bom) ∧
      bom.lookup "lineItems" = some (.list items) ∧
        List.Forall₂ (fun entry line =>
          line.Renders entry ∧ (line.sku ≠ .text "" ↔ entry.Named)) items analysis.bom.lines := by
  obtain ⟨entries, mapped, fits, made⟩ := exists_convert_of_read lawful given
  obtain ⟨bom, bomFound, itemsFound, itemsFit⟩ := exists_lines_of_admits fits
  refine ⟨entries, bom, linesIn entries, mappingOf_eq_ok_iff.mp mapped, bomFound, itemsFound, ?_⟩
  have checked : List.Forall₂ (fun entry line =>
      lineSchema.Admits .compared entry ∧ convertLine entry = .ok line)
      (linesIn entries) analysis.bom.lines :=
    (List.forall₂_and_left _ _).mpr ⟨itemsFit, forall₂_of_mapM (parts_of_convert fits made).1⟩
  refine checked.imp ?_
  rintro entry line ⟨entryFits, lineMade⟩
  have renders := renders_of_convertLine entryFits lineMade
  exact ⟨renders, renders.sku_ne_empty_iff⟩

/-- The lines of an analysis render the entries of its payload one by one.  A name of blanks alone
is lost. -/
theorem read_renders_entries
    {payload : Value} {analysis : Analysis} {log : List LogRecord}
    (given : read payload = .ok (analysis, log)) :
    ∃ entries bom items, Decodes payload entries ∧ entries.lookup "bom" = some (.dict bom) ∧
      bom.lookup "lineItems" = some (.list items) ∧
        List.Forall₂ (fun entry line =>
          line.Renders entry ∧ (line.sku ≠ .text "" ↔ entry.Named)) items analysis.bom.lines :=
  readWith_renders_entries Validator.lawful_draft7 given

/-- A payload with one entry, whose article is written with blanks around it. -/
def paddedPayload : Value :=
  .dict [("bom", .dict [("lineItems",
    .list [.dict [("sku", .text " A-1 "), ("quantity", .int 2)]])])]

theorem read_renders_paddedPayload :
    ∃ analysis log, read paddedPayload = .ok (analysis, log) ∧
      ∃ entries bom items, Decodes paddedPayload entries ∧
        entries.lookup "bom" = some (.dict bom) ∧ bom.lookup "lineItems" = some (.list items) ∧
          List.Forall₂ (fun entry line =>
            line.Renders entry ∧ (line.sku ≠ .text "" ↔ entry.Named)) items analysis.bom.lines := by
  have accepted : (read paddedPayload).isOk = true := by decide +kernel
  cases given : read paddedPayload with
  | error fault =>
      rw [given] at accepted
      cases accepted
  | ok result => exact ⟨result.1, result.2, rfl, read_renders_entries given⟩

/-- A payload with one entry, whose article is written with a blank alone. -/
def blankPayload : Value :=
  .text "\x7b\"bom\":\x7b\"lineItems\":[\x7b\"sku\":\" \",\"quantity\":1\x7d]\x7d\x7d"

/-- A blank passes the schema, and its line names no article. -/
theorem not_every_line_named :
    ¬ ∀ payload analysis log, read payload = .ok (analysis, log) →
      ∀ line ∈ analysis.bom.lines, ∃ s, line.sku = .text s ∧ s ≠ "" := by
  intro named
  have unnamed : ((read blankPayload).toOption.any fun result =>
      result.1.bom.lines.any fun line => !line.sku.isTruthy) = true := by
    decide +kernel
  cases given : read blankPayload with
  | error fault =>
      rw [given] at unnamed
      cases unnamed
  | ok result =>
      rw [given] at unnamed
      obtain ⟨line, member, empty⟩ := List.any_eq_true.mp unnamed
      obtain ⟨s, shown, full⟩ := named _ _ _ given line member
      rw [shown] at empty
      exact full (by simpa [Value.isTruthy] using empty)

end Analysis

end QuoteDesk
