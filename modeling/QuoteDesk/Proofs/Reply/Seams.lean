import QuoteDesk.Proofs.Reply.Regions

/-!
# What happens at a seam

Around a region that is taken, the spaces and tabs that touch it go, and at most one space
comes in.  A seam looks at everything on its left, but it never reaches behind an earlier
one: a space was put there only in front of a visible character.  So nothing but blanks is
lost or won, and the visible characters outside of the regions stay in their order.
-/

namespace QuoteDesk

namespace Reply

open Text

/-- A text and the cuts behind it are tidied: at every region the spaces and tabs that touch
it go, and one space or none comes in. -/
inductive Tidied : List Char → List Cut → List Char → Prop
  | whole {text : List Char} : Tidied text [] text
  | seam {text fill rest : List Char} {cut : Cut} {more : List Cut} :
      fill = [] ∨ fill = [' '] →
      Tidied (trimStart isInlineBlank cut.kept) more rest →
      Tidied text (cut :: more) (trimEnd isInlineBlank text ++ fill ++ rest)

theorem Tidied.ink_eq
    {text joined : List Char} {cuts : List Cut} (tidied : Tidied text cuts joined) :
    ink joined = ink (text ++ cuts.flatMap Cut.kept) := by
  induction tidied with
  | whole => simp
  | @seam text fill rest cut more blank _ inductionHypothesis =>
      have nothing : ink fill = [] := by
        rcases blank with rfl | rfl
        · rfl
        · rfl
      have inline : ∀ c, isInlineBlank c = true → isBlank c = true :=
        fun _ => isBlank_of_isInlineBlank
      simp only [ink_append, nothing, inductionHypothesis, ink_trimEnd inline,
        ink_trimStart inline, List.append_nil, List.flatMap_cons]

theorem outside_part (taken : Bool) (text : List Char) :
    ((text.map (·, taken)).filter fun mark => !mark.2).map Prod.fst =
      if taken then [] else text := by
  cases taken with
  | true => simp [List.filter_map, Function.comp_def]
  | false => simp [List.filter_map, Function.comp_def]

theorem outside_cuts (cuts : List Cut) :
    ((cuts.flatMap fun cut => cut.removed.map (·, true) ++ cut.kept.map (·, false)).filter
      fun mark => !mark.2).map Prod.fst = cuts.flatMap Cut.kept := by
  induction cuts with
  | nil => rfl
  | cons cut more inductionHypothesis =>
      simp only [List.flatMap_cons, List.filter_append, List.map_append, outside_part,
        inductionHypothesis, if_true, Bool.false_eq_true, if_false, List.nil_append]

theorem Divides.outside_eq
    {chars lead : List Char} {spans : List Span} {cuts : List Cut}
    (divides : Divides (marked (covered spans) chars) lead cuts) :
    outside chars spans = lead ++ cuts.flatMap Cut.kept := by
  rw [outside, divides.whole, List.filter_append, List.map_append, outside_part, outside_cuts]
  rfl

/-! ## One seam -/

/-- A seam trims both sides and puts one space between them or none. -/
theorem exists_fill (left right : List Char) :
    ∃ fill, (fill = [] ∨ fill = [' ']) ∧ (trimStart isInlineBlank right = [] → fill = []) ∧
      joinSeam left right =
        trimEnd isInlineBlank left ++ fill ++ trimStart isInlineBlank right := by
  simp only [joinSeam]
  split
  · exact ⟨[], Or.inl rfl, fun _ => rfl, by simp⟩
  · rename_i apart
    refine ⟨[' '], Or.inr rfl, ?_, by simp⟩
    intro nothing
    simp [nothing] at apart

/-- Behind a visible character a seam trims only the text since the last seam. -/
theorem exists_tidied
    {before text : List Char} (cuts : List Cut)
    (closed : trimEnd isInlineBlank (before ++ text) = before ++ trimEnd isInlineBlank text) :
    ∃ joined, Tidied text cuts joined ∧
      (cuts.map Cut.kept).foldl joinSeam (before ++ text) = before ++ joined := by
  induction cuts generalizing before text with
  | nil => exact ⟨text, .whole, rfl⟩
  | cons cut more inductionHypothesis =>
      obtain ⟨fill, blank, bare, seam⟩ := exists_fill (before ++ text) cut.kept
      rw [closed] at seam
      have stillClosed :
          trimEnd isInlineBlank (before ++ trimEnd isInlineBlank text ++ fill ++
              trimStart isInlineBlank cut.kept) =
            before ++ trimEnd isInlineBlank text ++ fill ++
              trimEnd isInlineBlank (trimStart isInlineBlank cut.kept) := by
        by_cases nothing : trimStart isInlineBlank cut.kept = []
        · rw [nothing, bare nothing, trimEnd_nil, List.append_nil, List.append_nil, ← closed,
            trimEnd_trimEnd]
        · rw [trimEnd_append_eq, if_neg]
          simpa using trimEnd_trimStart_ne_nil nothing
      obtain ⟨rest, tidied, joined⟩ := inductionHypothesis stillClosed
      refine ⟨trimEnd isInlineBlank text ++ fill ++ rest, .seam blank tidied, ?_⟩
      rw [List.map_cons, List.foldl_cons, seam, joined]
      simp only [List.append_assoc]

/-! ## All seams -/

/-- Cutting takes nothing but blanks beside what it is told to take: a text falls into regions
with text between them, each region gives way to one space or none together with the spaces
and tabs that touch it, and the two ends are trimmed. -/
theorem strip_loses_only_blanks (chars : List Char) (spans : List Span) :
    ∃ lead cuts joined,
      Divides (marked (covered spans) chars) lead cuts ∧
        Tidied lead cuts joined ∧
        Trims joined (strip chars spans) ∧
        ink (strip chars spans) = ink (outside chars spans) := by
  have divides := divides_regions (marked (covered spans) chars)
  have closed : ∀ text : List Char,
      trimEnd isInlineBlank ([] ++ text) = [] ++ trimEnd isInlineBlank text := fun _ => rfl
  obtain ⟨joined, tidied, joins⟩ :=
    exists_tidied (regions (marked (covered spans) chars)).2
      (closed (regions (marked (covered spans) chars)).1)
  have stripped : strip chars spans = trim joined := by
    rw [strip_eq_regions]
    exact congrArg trim joins
  refine ⟨_, _, joined, divides, tidied, ?_, ?_⟩
  · rw [stripped]
    exact trims_trim joined
  · rw [stripped, ink_trim, tidied.ink_eq, divides.outside_eq]

end Reply

end QuoteDesk
