import QuoteDesk.Proofs.Reply.Cutting

/-!
# Cleaning comes to an end

A cut may bring a new directive together, so cleaning cuts over and over until
no directive is left.  Every cut makes the text shorter, so this ends; the
number of rounds that the cleaner allows is never used up.  What is left is
trimmed and holds no directive, and cleaning it again changes nothing.
-/

namespace QuoteDesk.Reply

open Text

/-- Cutting over and over, without a bound on the rounds, ends with a result: a
text without directives is done once it is trimmed, any other one goes on with
what cutting leaves of it. -/
inductive Settles : List Char → List Char → Prop
  | done {chars : List Char} :
      Directive.scan chars = [] →
      Settles chars (trim chars)
  | cut {chars result : List Char} :
      Directive.scan chars ≠ [] →
      Settles (strip chars (directiveSpans chars)) result →
      Settles chars result

namespace Settles

variable {chars result other : List Char}

theorem unique
    (first : Settles chars result) (second : Settles chars other) :
    result = other := by
  induction first with
  | done nothing =>
      cases second with
      | done _ => rfl
      | cut some _ => exact False.elim (some nothing)
  | cut some _ inductionHypothesis =>
      cases second with
      | done nothing => exact False.elim (some nothing)
      | cut _ more => exact inductionHypothesis more

theorem isTrimmed (settles : Settles chars result) : IsTrimmed result := by
  induction settles with
  | done _ => exact isTrimmed_trim _
  | cut _ _ inductionHypothesis => exact inductionHypothesis

end Settles

theorem scan_trim
    {chars : List Char} (nothing : Directive.scan chars = []) :
    Directive.scan (trim chars) = [] := by
  obtain ⟨before, after, _, _, whole, _⟩ := trims_trim chars
  rw [whole] at nothing
  exact Directive.scan_eq_nil_of_append nothing

theorem Settles.scan_eq_nil
    {chars result : List Char} (settles : Settles chars result) :
    Directive.scan result = [] := by
  induction settles with
  | done nothing => exact scan_trim nothing
  | cut _ _ inductionHypothesis => exact inductionHypothesis

/-! ## The rounds suffice -/

theorem cleanWithin_succ (fuel : Nat) (chars : List Char) :
    cleanWithin (fuel + 1) chars =
      if Directive.scan chars = [] then trim chars
      else cleanWithin fuel (strip chars (directiveSpans chars)) := by
  rw [cleanWithin]
  cases found : directiveSpans chars with
  | nil =>
      have nothing : Directive.scan chars = [] := List.map_eq_nil_iff.1 found
      rw [if_pos nothing]
  | cons span more =>
      have some : Directive.scan chars ≠ [] := by
        intro nothing
        simp [directiveSpans, nothing] at found
      rw [if_neg some]

/-- Every round makes the text shorter, so the allowance is never used up. -/
theorem cleanWithin_settles
    {fuel : Nat} {chars : List Char} (enough : chars.length < fuel) :
    Settles chars (cleanWithin fuel chars) := by
  induction fuel generalizing chars with
  | zero => exact False.elim (Nat.not_lt_zero _ enough)
  | succ fuel inductionHypothesis =>
      rw [cleanWithin_succ]
      by_cases nothing : Directive.scan chars = []
      · rw [if_pos nothing]
        exact Settles.done nothing
      · rw [if_neg nothing]
        -- The fuel goes down by one, but so does the length at least.
        have shorter := strip_length_lt nothing
        exact Settles.cut nothing (inductionHypothesis (by omega))

/-- Cutting over and over ends, and the cleaner gives what it ends with. -/
theorem clean_settles (chars : List Char) : Settles chars (clean chars) :=
  cleanWithin_settles (Nat.lt_succ_self chars.length)

theorem clean_of_scan_eq_nil
    {chars : List Char} (nothing : Directive.scan chars = []) :
    clean chars = trim chars :=
  (clean_settles chars).unique (Settles.done nothing)

/-- No directive is left in a clean text. -/
@[simp]
theorem scan_clean (chars : List Char) : Directive.scan (clean chars) = [] :=
  (clean_settles chars).scan_eq_nil

theorem isTrimmed_clean (chars : List Char) : IsTrimmed (clean chars) :=
  (clean_settles chars).isTrimmed

/-- A cut of all directives before the cleaning starts makes no difference. -/
@[simp]
theorem clean_strip (chars : List Char) :
    clean (strip chars (directiveSpans chars)) = clean chars := by
  by_cases nothing : Directive.scan chars = []
  · have noSpans : directiveSpans chars = [] := by
      rw [directiveSpans, nothing, List.map_nil]
    rw [noSpans, strip_nil, clean_of_scan_eq_nil (scan_trim nothing), trim_trim,
      clean_of_scan_eq_nil nothing]
  · exact (Settles.cut nothing (clean_settles _)).unique (clean_settles chars)

/-- Cleaning a clean text changes nothing. -/
@[simp]
theorem clean_clean (chars : List Char) : clean (clean chars) = clean chars := by
  rw [clean_of_scan_eq_nil (scan_clean chars), trim_eq_self (isTrimmed_clean chars)]

end QuoteDesk.Reply
