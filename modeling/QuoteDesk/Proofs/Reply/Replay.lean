import QuoteDesk.Proofs.Catalog.Lookup
import QuoteDesk.Proofs.Reply.Cleaning
import QuoteDesk.Proofs.Reply.Processing

/-!
# A cleaned reply has nothing in it

Processing a text cleans it as far as cleaning alone does.  A cleaned text that
is processed again causes no call and no diagnostic, and it stays as it is.  Only
the inventory can still be at fault, since it is put into a catalog before a text
without directives is returned.
-/

namespace QuoteDesk

namespace Reply

variable {σ : Type} {context : TurnContext σ} {bench : Bench σ} {s : String}

theorem cleanedOf_scan (chars : List Char) :
    cleanedOf chars (Directive.scan chars) = String.ofList (clean chars) := by
  have stripped := clean_strip chars
  rw [directiveSpans] at stripped
  rw [cleanedOf, stripped]

@[simp]
theorem toList_cleanText (s : String) : (cleanText s).toList = clean s.toList :=
  String.toList_ofList

/-- A text that was cleaned stays as it is. -/
@[simp]
theorem cleanText_cleanText (s : String) : cleanText (cleanText s) = cleanText s := by
  rw [cleanText, toList_cleanText, clean_clean]
  rfl

/-- What a processed reply shows is the cleaned text. -/
theorem cleaned_of_returned
    {processed : Processed}
    (returned : (process context bench (.text s)).1 = .ok processed) :
    processed.cleaned = cleanText s := by
  by_cases empty : s = ""
  · subst empty
    cases returned
    rfl
  · rw [process_text _ _ empty] at returned
    cases failure : (checkAll bench (Directive.scan s.toList)).1.failure with
    | some fault =>
        rw [processText_of_failure failure] at returned
        cases returned
    | none =>
        cases indexed : catalogOf context.inventory with
        | error fault =>
            rw [processText_of_catalog_error failure indexed] at returned
            cases returned
        | ok catalog =>
            obtain ⟨result, _, _, ended, _⟩ := processText_of_catalog failure indexed
            rw [ended] at returned
            cases result with
            | error fault => cases returned
            | ok executed =>
                cases returned
                exact cleanedOf_scan s.toList

/-! ## Texts without directives -/

/-- A text without directives is returned trimmed once there is a catalog. -/
theorem process_of_scan_eq_nil
    (nothing : Directive.scan s.toList = []) (nonempty : s ≠ "")
    (context : TurnContext σ) (bench : Bench σ) :
    (process context bench (.text s)).1 =
        (catalogOf context.inventory).map (fun _ => ⟨[], cleanText s⟩) ∧
      (process context bench (.text s)).2.state = bench.state ∧
      (process context bench (.text s)).2.sink = bench.sink := by
  have checked : checkAll bench (Directive.scan s.toList) = (⟨[], none⟩, bench) := by
    rw [nothing, checkAll]
  have noFailure : (checkAll bench (Directive.scan s.toList)).1.failure = none := by
    rw [checked]
  rw [process_text _ _ nonempty]
  cases indexed : catalogOf context.inventory with
  | error fault =>
      rw [processText_of_catalog_error noFailure indexed, checked]
      exact ⟨rfl, rfl, rfl⟩
  | ok catalog =>
      obtain ⟨result, after, ran, ended, state, sink⟩ :=
        processText_of_catalog noFailure indexed
      rw [checked] at ran
      cases ran
      refine ⟨?_, state, sink⟩
      rw [ended, cleanedOf_scan]
      rfl

/-- Cleaning comes to an end, and what it leaves is trimmed and holds no
directive.  A text that is processed comes back as cleaned.  A cleaned text that
is processed causes no call and no diagnostic, and comes back unchanged when it
is empty or the inventory has a catalog; otherwise the inventory is at fault. -/
theorem cleanText_replays (s : String) :
    Settles s.toList (cleanText s).toList ∧
      Directive.scan (cleanText s).toList = [] ∧
      Text.IsTrimmed (cleanText s).toList ∧
      (∀ (σ : Type) (context : TurnContext σ) (bench : Bench σ) (processed : Processed),
        (process context bench (.text s)).1 = .ok processed →
          processed.cleaned = cleanText s) ∧
      ∀ (σ : Type) (context : TurnContext σ) (bench : Bench σ),
        callsOf context bench (.text (cleanText s)) = [] ∧
          (process context bench (.text (cleanText s))).2.state = bench.state ∧
          (process context bench (.text (cleanText s))).2.sink = bench.sink ∧
          (process context bench (.text (cleanText s))).1 =
            if cleanText s = "" then .ok ⟨[], cleanText s⟩
            else (catalogOf context.inventory).map (fun _ => ⟨[], cleanText s⟩) := by
  have settles : Settles s.toList (cleanText s).toList := by
    rw [toList_cleanText]
    exact clean_settles s.toList
  refine ⟨settles, settles.scan_eq_nil, settles.isTrimmed, ?_, ?_⟩
  · intro σ context bench processed returned
    exact cleaned_of_returned returned
  · intro σ context bench
    by_cases empty : cleanText s = ""
    · rw [if_pos empty, empty, callsOf]
      exact ⟨rfl, rfl, rfl, rfl⟩
    · obtain ⟨result, state, sink⟩ :=
        process_of_scan_eq_nil settles.scan_eq_nil empty context bench
      have noting :=
        process_of_scan_eq_nil settles.scan_eq_nil empty context.noting bench.noting
      rw [if_neg empty, callsOf, noting.2.1, state, sink, result, cleanText_cleanText]
      exact ⟨rfl, rfl, rfl, rfl⟩

/-- A number is no inventory to process a cleaned text with. -/
theorem not_cleanText_replays_with_every_inventory :
    ¬ ∀ (bench : Bench Unit) (s : String),
      (process ⟨.int 5, .idle, .null⟩ bench (.text (cleanText s))).1 =
        .ok ⟨[], cleanText s⟩ := by
  have cleaned : cleanText "hi" = "hi" := by decide +kernel
  have nothing : Directive.scan "hi".toList = [] := by decide +kernel
  intro replays
  have replayed := replays ⟨(), .nowhere, []⟩ "hi"
  rw [cleaned, (process_of_scan_eq_nil nothing (by decide) _ _).1] at replayed
  cases replayed

end Reply

end QuoteDesk
