import Mathlib.Data.List.DropRight
import Mathlib.Data.List.TakeWhile
import QuoteDesk.Text.Blank

/-!
# Trimmed texts

A text is trimmed when no blank stands at either end of it.  Trimming takes
nothing but blanks away, leaves a trimmed text and leaves a text that is
trimmed already as it is.  The visible characters of a text are its ink, which
no trimming touches.
-/

namespace QuoteDesk.Text

/-- No blank stands at either end of a text. -/
structure IsTrimmed (chars : List Char) : Prop where
  first : ∀ c, chars.head? = some c → isBlank c = false
  last : ∀ c, chars.getLast? = some c → isBlank c = false

/-- A text is what another one holds between the blanks at its two ends. -/
def Trims (chars kept : List Char) : Prop :=
  ∃ before after,
    (∀ c ∈ before, isBlank c = true) ∧ (∀ c ∈ after, isBlank c = true) ∧
      chars = before ++ kept ++ after ∧ IsTrimmed kept

theorem trimEnd_eq_rdropWhile (drop : Char → Bool) (chars : List Char) :
    trimEnd drop chars = chars.rdropWhile drop := rfl

theorem trimStart_append (drop : Char → Bool) (chars : List Char) :
    chars.takeWhile drop ++ trimStart drop chars = chars :=
  List.takeWhile_append_dropWhile

theorem trimEnd_append (drop : Char → Bool) (chars : List Char) :
    trimEnd drop chars ++ chars.rtakeWhile drop = chars :=
  List.rdropWhile_append_rtakeWhile

theorem trimEnd_last
    {drop : Char → Bool} {chars : List Char} {c : Char}
    (last : (trimEnd drop chars).getLast? = some c) :
    drop c = false := by
  rw [trimEnd, List.getLast?_reverse] at last
  exact trimStart_head last

/-- What is cut off at the end leaves the first character alone, unless
nothing is left. -/
theorem trimEnd_head
    {drop : Char → Bool} {chars : List Char} {c : Char}
    (first : (trimEnd drop chars).head? = some c) :
    chars.head? = some c := by
  rw [← trimEnd_append drop chars, List.head?_append, first]
  rfl

theorem isTrimmed_trim (chars : List Char) : IsTrimmed (trim chars) where
  first _ first := trimStart_head (trimEnd_head first)
  last _ last := trimEnd_last last

/-- Trimming takes blanks away at both ends and nothing else. -/
theorem trims_trim (chars : List Char) : Trims chars (trim chars) := by
  refine ⟨chars.takeWhile isBlank, (trimStart isBlank chars).rtakeWhile isBlank,
    ?_, ?_, ?_, isTrimmed_trim chars⟩
  · intro c member
    exact List.mem_takeWhile_imp member
  · intro c member
    exact List.mem_rtakeWhile_imp member
  · rw [trim, List.append_assoc, trimEnd_append, trimStart_append]

theorem trim_eq_self
    {chars : List Char} (trimmed : IsTrimmed chars) :
    trim chars = chars := by
  have startKept : trimStart isBlank chars = chars := by
    cases chars with
    | nil => rfl
    | cons c rest =>
        exact trimStart_of_head rest (trimmed.first c rfl)
  rw [trim, startKept, trimEnd_eq_rdropWhile, List.rdropWhile_eq_self_iff]
  intro nonempty
  simp [trimmed.last _ (List.getLast?_eq_some_getLast nonempty)]

@[simp]
theorem trim_trim (chars : List Char) : trim (trim chars) = trim chars :=
  trim_eq_self (isTrimmed_trim chars)

theorem isTrimmed_of_ink
    {chars : List Char} (ink : ∀ c ∈ chars, isBlank c = false) :
    IsTrimmed chars where
  first c first := ink c (List.mem_of_head? first)
  last c last := ink c (List.mem_of_getLast? last)

theorem isTrimmed_replicate
    {c : Char} {count : Nat} (ink : isBlank c = false) :
    IsTrimmed (List.replicate count c) := by
  apply isTrimmed_of_ink
  intro d member
  rw [List.eq_of_mem_replicate member]
  exact ink

theorem trim_length_le (chars : List Char) : (trim chars).length ≤ chars.length :=
  Nat.le_trans (trimEnd_length_le isBlank _) (trimStart_length_le isBlank chars)

theorem trimEnd_trimEnd (drop : Char → Bool) (chars : List Char) :
    trimEnd drop (trimEnd drop chars) = trimEnd drop chars := by
  simp only [trimEnd_eq_rdropWhile, List.rdropWhile_idempotent]

/-- What is cut off at the end of two texts reaches the first one only when nothing is left
of the second one. -/
theorem trimEnd_append_eq (drop : Char → Bool) (first second : List Char) :
    trimEnd drop (first ++ second) =
      if (trimEnd drop second).isEmpty then trimEnd drop first
      else first ++ trimEnd drop second := by
  simp only [trimEnd, List.reverse_append, List.dropWhile_append, List.isEmpty_reverse]
  split
  · rfl
  · rw [List.reverse_append, List.reverse_reverse]

/-- Behind a character that is kept nothing in front of it is cut off. -/
theorem trimEnd_append_cons
    {drop : Char → Bool} {c : Char} (kept : drop c = false) (before after : List Char) :
    trimEnd drop (before ++ c :: after) = before ++ c :: trimEnd drop after := by
  have alone : trimEnd drop (c :: after) = c :: trimEnd drop after := by
    rw [← List.singleton_append, trimEnd_append_eq]
    split
    · rename_i nothing
      rw [List.isEmpty_iff.1 nothing]
      simp [trimEnd, kept]
    · rfl
  rw [trimEnd_append_eq, alone]
  rfl

theorem trimEnd_append_of_kept
    {drop : Char → Bool} {kept : List Char} (all : ∀ c ∈ kept, drop c = false)
    (after : List Char) :
    trimEnd drop (kept ++ after) = kept ++ trimEnd drop after := by
  induction kept with
  | nil => rfl
  | cons c rest inductionHypothesis =>
      obtain ⟨first, others⟩ := List.forall_mem_cons.mp all
      rw [List.cons_append, ← List.nil_append (c :: (rest ++ after)), trimEnd_append_cons first,
        inductionHypothesis others]
      rfl

/-- It does not matter at which end the cutting begins. -/
theorem trimStart_trimEnd (drop : Char → Bool) (chars : List Char) :
    trimStart drop (trimEnd drop chars) = trimEnd drop (trimStart drop chars) := by
  induction chars with
  | nil => rfl
  | cons c rest inductionHypothesis =>
      cases cut : drop c with
      | true =>
          have dropped : trimStart drop (c :: rest) = trimStart drop rest :=
            List.dropWhile_cons_of_pos cut
          rw [dropped, ← inductionHypothesis, ← List.singleton_append, trimEnd_append_eq]
          split
          · rename_i nothing
            rw [List.isEmpty_iff.mp nothing, trimEnd, List.reverse_singleton,
              List.dropWhile_cons_of_pos cut]
            rfl
          · exact List.dropWhile_cons_of_pos cut
      | false =>
          have ended : trimEnd drop (c :: rest) = c :: trimEnd drop rest :=
            trimEnd_append_cons cut [] rest
          rw [ended, trimStart_of_head _ cut, trimStart_of_head _ cut, ended]

theorem trimEnd_trimStart_ne_nil
    {drop : Char → Bool} {chars : List Char} (nonempty : trimStart drop chars ≠ []) :
    trimEnd drop (trimStart drop chars) ≠ [] := by
  obtain ⟨c, rest, shape⟩ := List.exists_cons_of_ne_nil nonempty
  have head : (trimStart drop chars).head? = some c := by
    rw [shape, List.head?_cons]
  rw [shape, ← List.nil_append (c :: rest), trimEnd_append_cons (trimStart_head head)]
  simp

/-- Blanks around a text do not count. -/
theorem trim_append_blank
    {before after : List Char} (blankBefore : ∀ c ∈ before, isBlank c = true)
    (blankAfter : ∀ c ∈ after, isBlank c = true) (chars : List Char) :
    trim (before ++ chars ++ after) = trim chars := by
  have nothingBefore : trimStart isBlank before = [] := by
    simpa [trimStart] using blankBefore
  have nothingAfter : trimStart isBlank after = [] := by
    simpa [trimStart] using blankAfter
  have nothingBehind : trimEnd isBlank after = [] := by
    simpa [trimEnd] using blankAfter
  have started : trimStart isBlank (before ++ chars ++ after) =
      trimStart isBlank (chars ++ after) := by
    rw [List.append_assoc, trimStart, List.dropWhile_append, ← trimStart, nothingBefore]
    rfl
  rw [trim, trim, started, trimStart, List.dropWhile_append]
  split
  · rename_i nothing
    rw [← trimStart, nothingAfter, trimStart, List.isEmpty_iff.1 nothing]
  · rw [trimEnd_append_eq, nothingBehind]
    rfl

/-! ## Characters that trimming cannot touch -/

theorem filter_trimStart
    {drop keep : Char → Bool} (lost : ∀ c, drop c = true → keep c = false) (chars : List Char) :
    (trimStart drop chars).filter keep = chars.filter keep := by
  have nothing : (chars.takeWhile drop).filter keep = [] := by
    rw [List.filter_eq_nil_iff]
    intro c member
    simp [lost c (List.mem_takeWhile_imp member)]
  conv_rhs => rw [← trimStart_append drop chars, List.filter_append, nothing, List.nil_append]

theorem filter_trimEnd
    {drop keep : Char → Bool} (lost : ∀ c, drop c = true → keep c = false) (chars : List Char) :
    (trimEnd drop chars).filter keep = chars.filter keep := by
  rw [trimEnd, List.filter_reverse]
  change ((trimStart drop chars.reverse).filter keep).reverse = chars.filter keep
  rw [filter_trimStart lost, List.filter_reverse, List.reverse_reverse]

/-- Trimming sees through a filter that drops nothing but what trimming cuts off. -/
theorem trimStart_filter
    {drop keep : Char → Bool} (lost : ∀ c, keep c = false → drop c = true) (chars : List Char) :
    trimStart drop (chars.filter keep) = (trimStart drop chars).filter keep := by
  induction chars with
  | nil => rfl
  | cons c rest inductionHypothesis =>
      simp only [trimStart] at inductionHypothesis ⊢
      by_cases cut : drop c = true
      · by_cases stays : keep c = true
        · simp [cut, stays, inductionHypothesis]
        · simp [cut, stays, inductionHypothesis]
      · have stays : keep c = true := by
          by_contra left
          exact cut (lost c (by simpa using left))
        simp [cut, stays]

theorem trimEnd_filter
    {drop keep : Char → Bool} (lost : ∀ c, keep c = false → drop c = true) (chars : List Char) :
    trimEnd drop (chars.filter keep) = (trimEnd drop chars).filter keep := by
  have reversed := trimStart_filter lost chars.reverse
  simp only [trimStart, List.filter_reverse] at reversed
  rw [trimEnd, trimEnd, reversed, List.filter_reverse]

/-- The characters of a text that are no blanks. -/
def ink (chars : List Char) : List Char :=
  chars.filter fun c => !isBlank c

@[simp]
theorem ink_append (first second : List Char) : ink (first ++ second) = ink first ++ ink second :=
  List.filter_append first second

theorem isBlank_of_isInlineBlank {c : Char} (inline : isInlineBlank c = true) :
    isBlank c = true := by
  simp only [isInlineBlank, Bool.or_eq_true, beq_iff_eq] at inline
  rcases inline with rfl | rfl
  · rfl
  · rfl

theorem ink_trimEnd
    {drop : Char → Bool} (blank : ∀ c, drop c = true → isBlank c = true) (chars : List Char) :
    ink (trimEnd drop chars) = ink chars :=
  filter_trimEnd (fun c dropped => by simp [blank c dropped]) chars

theorem ink_trimStart
    {drop : Char → Bool} (blank : ∀ c, drop c = true → isBlank c = true) (chars : List Char) :
    ink (trimStart drop chars) = ink chars :=
  filter_trimStart (fun c dropped => by simp [blank c dropped]) chars

theorem ink_trim (chars : List Char) : ink (trim chars) = ink chars := by
  rw [trim, ink_trimEnd fun _ blank => blank, ink_trimStart fun _ blank => blank]

/-- The characters of a text other than spaces and tabs. -/
def solid (chars : List Char) : List Char :=
  chars.filter fun c => !isInlineBlank c

@[simp]
theorem solid_append (first second : List Char) :
    solid (first ++ second) = solid first ++ solid second :=
  List.filter_append first second

theorem solid_reverse (chars : List Char) : solid chars.reverse = (solid chars).reverse :=
  List.filter_reverse

theorem solid_trimEnd (chars : List Char) : solid (trimEnd isInlineBlank chars) = solid chars :=
  filter_trimEnd (fun c dropped => by simp [dropped]) chars

theorem solid_trimStart (chars : List Char) :
    solid (trimStart isInlineBlank chars) = solid chars :=
  filter_trimStart (fun c dropped => by simp [dropped]) chars

theorem trimStart_solid (chars : List Char) :
    trimStart isBlank (solid chars) = solid (trimStart isBlank chars) :=
  trimStart_filter (fun _ gone => isBlank_of_isInlineBlank (by simpa using gone)) chars

theorem trimEnd_solid (chars : List Char) :
    trimEnd isBlank (solid chars) = solid (trimEnd isBlank chars) :=
  trimEnd_filter (fun _ gone => isBlank_of_isInlineBlank (by simpa using gone)) chars

theorem ink_solid (chars : List Char) : ink (solid chars) = ink chars := by
  rw [ink, solid, List.filter_filter]
  apply List.filter_congr
  intro c member
  cases inline : isInlineBlank c with
  | true => simp [isBlank_of_isInlineBlank inline]
  | false => simp

/-! ## Where the ends are cut off -/

theorem trimStart_eq_nil_iff {chars : List Char} :
    trimStart isBlank chars = [] ↔ ink chars = [] := by
  simp [trimStart, ink]

theorem trimEnd_eq_nil_iff {chars : List Char} :
    trimEnd isBlank chars = [] ↔ ink chars = [] := by
  simp [trimEnd, ink]

theorem trim_eq_nil_iff {chars : List Char} : trim chars = [] ↔ ink chars = [] := by
  rw [trim, trimEnd_eq_nil_iff, ink_trimStart fun _ blank => blank]

theorem isBlank_of_ink_eq_nil
    {c : Char} {chars : List Char} (visible : ink (c :: chars) ≠ []) (nothing : ink chars = []) :
    isBlank c = false := by
  by_contra blank
  simp only [Bool.not_eq_false] at blank
  exact visible (by simpa [ink, blank] using nothing)

theorem trimStart_append_cons_of_ink
    {before : List Char} {c : Char} (visible : ink (before ++ [c]) ≠ []) (after : List Char) :
    trimStart isBlank (before ++ c :: after) = trimStart isBlank before ++ c :: after := by
  simp only [trimStart, List.dropWhile_append]
  split
  · rename_i nothing
    have invisible : ink before = [] := trimStart_eq_nil_iff.1 (List.isEmpty_iff.1 nothing)
    have alone : ink [c] ≠ [] := by simpa [invisible] using visible
    have kept : isBlank c = false := isBlank_of_ink_eq_nil alone rfl
    rw [List.isEmpty_iff.1 nothing, List.dropWhile_cons_of_neg (by simp [kept]), List.nil_append]
  · rfl

theorem trimEnd_append_cons_of_ink
    {c : Char} {after : List Char} (visible : ink (c :: after) ≠ []) (before : List Char) :
    trimEnd isBlank (before ++ c :: after) = before ++ c :: trimEnd isBlank after := by
  by_cases nothing : ink after = []
  · exact trimEnd_append_cons (isBlank_of_ink_eq_nil visible nothing) before after
  · have apart : before ++ c :: after = (before ++ [c]) ++ after := by simp
    rw [apart, trimEnd_append_eq, if_neg, List.append_assoc, List.singleton_append]
    simpa [trimEnd_eq_nil_iff] using nothing

end QuoteDesk.Text
