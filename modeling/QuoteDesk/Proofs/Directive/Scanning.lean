import QuoteDesk.Directive.Scan
import QuoteDesk.Proofs.Directive.Places
import QuoteDesk.Proofs.Text.Trimming

/-!
# What scanning finds

The scanner passes over a text once and steps behind every mark that it takes.
No mark starts inside another one, so nothing is lost by stepping: the
directives found are those of all marks that stand anywhere in the text, in
their order and apart from each other.
-/

namespace QuoteDesk.Directive

open Mark

/-- A directive says what a mark asks for: its kind is that of the mark, and
its fields hold the field texts of the mark without the blanks around them. -/
inductive Reads : Mark → Directive → Prop
  | add {skuText quantityText sku quantity : List Char} {span : Span} :
      Text.Trims skuText sku →
      Text.Trims quantityText quantity →
      Reads (.add skuText quantityText)
        ⟨.addToQuote,
          [("SKU", .text (String.ofList sku)),
            ("QUANTITY", .text (String.ofList quantity))], span⟩
  | remove {skuText sku : List Char} {span : Span} :
      Text.Trims skuText sku →
      Reads (.remove skuText)
        ⟨.removeFromQuote, [("SKU", .text (String.ofList sku))], span⟩

theorem reads_ofMark (mark : Mark) (start size : Nat) :
    Reads mark (ofMark mark start size) := by
  cases mark with
  | add sku quantity =>
      exact Reads.add (Text.trims_trim sku) (Text.trims_trim quantity)
  | remove sku =>
      exact Reads.remove (Text.trims_trim sku)

/-! ## Every mark is found -/

private theorem exists_standsAt_cons
    {c : Char} {rest : List Char} {bound : Nat}
    {property : Mark → Nat → Nat → Prop} :
    (∃ mark start stop, StandsAt (c :: rest) mark start stop ∧
        bound + 1 ≤ start ∧ property mark start stop) ↔
      ∃ mark start stop, StandsAt rest mark start stop ∧
        bound ≤ start ∧ property mark (start + 1) (stop + 1) := by
  constructor
  · rintro ⟨mark, start, stop, stands, behind, holds⟩
    have nonempty := stands.start_lt_stop
    obtain ⟨start, rfl⟩ : ∃ before, start = before + 1 := ⟨start - 1, by omega⟩
    obtain ⟨stop, rfl⟩ : ∃ before, stop = before + 1 := ⟨stop - 1, by omega⟩
    exact ⟨mark, start, stop, standsAt_cons_succ.1 stands, by omega, holds⟩
  · rintro ⟨mark, start, stop, stands, behind, holds⟩
    exact ⟨mark, start + 1, stop + 1, standsAt_cons_succ.2 stands, by omega, holds⟩

/-- The directives that are found are the marks that stand in the text. -/
theorem mem_scanFrom
    {chars : List Char} {index skip : Nat} {directive : Directive} :
    directive ∈ scanFrom index skip chars ↔
      ∃ mark start stop, StandsAt chars mark start stop ∧ skip ≤ start ∧
        directive = ofMark mark (index + start) (stop - start) := by
  induction chars generalizing index skip with
  | nil =>
      constructor
      · intro member
        simp [scanFrom] at member
      · rintro ⟨mark, start, stop, stands, _⟩
        have inside := stands.inside
        have nonempty := stands.start_lt_stop
        simp only [List.length_nil] at inside
        omega
  | cons c rest inductionHypothesis =>
      have behindFirst : ∀ bound,
          directive ∈ scanFrom (index + 1) bound rest ↔
            ∃ mark start stop, StandsAt (c :: rest) mark start stop ∧
              bound + 1 ≤ start ∧
              directive = ofMark mark (index + start) (stop - start) := by
        intro bound
        rw [inductionHypothesis, exists_standsAt_cons]
        simp only [Nat.add_sub_add_right, Nat.add_assoc, Nat.add_comm 1]
      by_cases skipping : 0 < skip
      · rw [scanFrom, if_pos skipping, behindFirst, Nat.sub_add_cancel skipping]
      · have noSkip : skip = 0 := Nat.eq_zero_of_not_pos skipping
        subst noSkip
        rw [scanFrom, if_neg skipping]
        cases found : split? (c :: rest) with
        | none =>
            have noneHere : ∀ mark stop, ¬ StandsAt (c :: rest) mark 0 stop := by
              intro mark stop stands
              have first := standsAt_zero_iff.2 ⟨stop, stands, rfl⟩
              rw [found] at first
              cases first
            rw [behindFirst]
            constructor
            · rintro ⟨mark, start, stop, stands, _, equal⟩
              exact ⟨mark, start, stop, stands, Nat.zero_le start, equal⟩
            · rintro ⟨mark, start, stop, stands, _, equal⟩
              cases start with
              | zero => exact False.elim (noneHere mark stop stands)
              | succ start => exact ⟨mark, start + 1, stop, stands, by omega, equal⟩
        | some result =>
            obtain ⟨mark, behind⟩ := result
            obtain ⟨stop, stands, rfl⟩ := standsAt_zero_iff.1 found
            have inside := stands.inside
            have nonempty := stands.start_lt_stop
            have size : rest.length + 1 - ((c :: rest).drop stop).length = stop := by
              simp only [List.length_drop, List.length_cons] at inside ⊢
              omega
            simp only [size, List.mem_cons]
            -- The scanner goes on at `stop`.  Places between the two are passed over
            -- without a look; no mark starts there.
            rw [behindFirst, Nat.sub_add_cancel nonempty]
            constructor
            · rintro (rfl | ⟨other, start, stop', there, _, equal⟩)
              · exact ⟨mark, 0, stop, stands, Nat.le_refl 0, rfl⟩
              · exact ⟨other, start, stop', there, Nat.zero_le start, equal⟩
            · rintro ⟨other, start, stop', there, _, equal⟩
              cases start with
              | zero =>
                  obtain ⟨rfl, rfl⟩ := stands.unique there
                  exact Or.inl equal
              | succ start =>
                  have apart := stands.stop_le_start there (Nat.succ_pos start)
                  exact Or.inr ⟨other, start + 1, stop', there, apart, equal⟩

/-- Scanning finds the directives of all marks in a text and nothing else. -/
theorem mem_scan {chars : List Char} {directive : Directive} :
    directive ∈ scan chars ↔
      ∃ mark start stop, StandsAt chars mark start stop ∧
        directive = ofMark mark start (stop - start) := by
  rw [scan, mem_scanFrom]
  simp only [Nat.zero_le, true_and, Nat.zero_add]

theorem scan_eq_nil_iff {chars : List Char} :
    scan chars = [] ↔ ∀ mark start stop, ¬ StandsAt chars mark start stop := by
  rw [List.eq_nil_iff_forall_not_mem]
  constructor
  · intro nothing mark start stop stands
    exact nothing _ (mem_scan.2 ⟨mark, start, stop, stands, rfl⟩)
  · intro nothing directive member
    obtain ⟨mark, start, stop, stands, _⟩ := mem_scan.1 member
    exact nothing mark start stop stands

/-- A part of a text without directives has none either. -/
theorem scan_eq_nil_of_append
    {before chars after : List Char}
    (nothing : scan (before ++ chars ++ after) = []) :
    scan chars = [] := by
  rw [scan_eq_nil_iff] at nothing ⊢
  intro mark start stop stands
  exact nothing mark _ _ (stands.append before after)

/-! ## The order of directives -/

theorem ofMark_span_of_standsAt
    {chars : List Char} {mark : Mark} {start stop : Nat}
    (stands : StandsAt chars mark start stop) :
    (ofMark mark start (stop - start)).span = ⟨start, stop⟩ := by
  have nonempty := stands.start_lt_stop
  rw [ofMark_span, Span.mk.injEq]
  omega

/-- Directives are found from left to right and do not overlap. -/
theorem scanFrom_pairwise (chars : List Char) (index skip : Nat) :
    (scanFrom index skip chars).Pairwise fun first second =>
      first.span.stop ≤ second.span.start := by
  induction chars generalizing index skip with
  | nil => exact List.Pairwise.nil
  | cons c rest inductionHypothesis =>
      rw [scanFrom]
      split
      · exact inductionHypothesis (index + 1) (skip - 1)
      · split
        · rename_i mark behind found
          rw [List.pairwise_cons]
          refine ⟨?_, inductionHypothesis _ _⟩
          intro second member
          have bounds := scanFrom_bounds rest _ _ second member
          rw [ofMark_span]
          simp only
          omega
        · exact inductionHypothesis (index + 1) 0

/-- Directives stand one behind the other. -/
theorem scan_pairwise (chars : List Char) :
    (scan chars).Pairwise fun first second =>
      first.span.stop ≤ second.span.start :=
  scanFrom_pairwise chars 0 0

theorem scan_bounds
    {chars : List Char} {directive : Directive} (member : directive ∈ scan chars) :
    0 ≤ directive.span.start ∧ directive.span.start < directive.span.stop ∧
      directive.span.stop ≤ chars.length := by
  have bounds := scanFrom_bounds chars 0 0 directive member
  omega

/-- The spans found are exactly those of the words of the written form in the
text.  They come from left to right and apart from each other, no two words
start at the same place, and a directive says what the only mark with its span
asks for. -/
theorem scan_spans_exact (chars : List Char) :
    (∀ span : Span,
      span ∈ (scan chars).map Directive.span ↔
        ∃ (mark : Mark) (start stop : Nat),
          StandsAt chars mark start stop ∧ span = ⟨start, stop⟩) ∧
    (scan chars).Pairwise (fun first second =>
      first.span.start < first.span.stop ∧ first.span.stop ≤ second.span.start) ∧
    (∀ mark mark' start stop stop',
      StandsAt chars mark start stop → StandsAt chars mark' start stop' →
        stop = stop') ∧
    ∀ directive ∈ scan chars, ∃ (mark : Mark) (start stop : Nat),
      directive.span = ⟨start, stop⟩ ∧ StandsAt chars mark start stop ∧
        (∀ other, StandsAt chars other start stop → other = mark) ∧
        Reads mark directive := by
  refine ⟨?_, ?_, ?_, ?_⟩
  · intro span
    rw [List.mem_map]
    constructor
    · rintro ⟨directive, member, rfl⟩
      obtain ⟨mark, start, stop, stands, rfl⟩ := mem_scan.1 member
      exact ⟨mark, start, stop, stands, ofMark_span_of_standsAt stands⟩
    · rintro ⟨mark, start, stop, stands, rfl⟩
      exact ⟨_, mem_scan.2 ⟨mark, start, stop, stands, rfl⟩,
        ofMark_span_of_standsAt stands⟩
  · apply (scan_pairwise chars).imp_of_mem
    intro first second firstMember _ apart
    exact ⟨(scan_bounds firstMember).2.1, apart⟩
  · intro mark mark' start stop stop' stands stands'
    exact (stands.unique stands').2
  · intro directive member
    obtain ⟨mark, start, stop, stands, rfl⟩ := mem_scan.1 member
    refine ⟨mark, start, stop, ofMark_span_of_standsAt stands, stands, ?_,
      reads_ofMark mark start (stop - start)⟩
    intro other there
    exact (there.unique stands).1

end QuoteDesk.Directive
