import QuoteDesk.Proofs.Reply.Cutting

/-!
# Regions of a text

Spans may come in any order, overlap, touch each other or lie outside of a text.  All that
counts is which characters they take.  Those stand in regions with some text between them,
and cutting joins the texts around the regions.  A seam between two spans that touch each
other leaves no trace, since the text between them is empty.
-/

namespace QuoteDesk

open Text

/-- Whether a span takes the character at a place. -/
def Span.covers (span : Span) (place : Nat) : Bool :=
  decide (span.start ≤ place) && decide ((place : Int) < span.stop)

namespace Reply

/-- Whether one of some spans takes the character at a place. -/
def covered (spans : List Span) (place : Nat) : Bool :=
  spans.any fun span => span.covers place

/-- The characters of a text, each with whether it is taken. -/
def marked (taken : Nat → Bool) (chars : List Char) : List (Char × Bool) :=
  chars.mapIdx fun place c => (c, taken place)

/-- The text outside of some spans. -/
def outside (chars : List Char) (spans : List Span) : List Char :=
  ((marked (covered spans) chars).filter fun mark => !mark.2).map Prod.fst

/-- A region that is taken, and the text behind it up to the next region. -/
structure Cut where
  removed : List Char
  kept : List Char

/-- Puts characters that are taken in front of a text and its cuts.  They are part of the
first region when that region opens the text. -/
def openedBy (removed : List Char) : List Char × List Cut → List Cut
  | ([], cut :: more) => ⟨removed ++ cut.removed, cut.kept⟩ :: more
  | (lead, cuts) => ⟨removed, lead⟩ :: cuts

/-- The text in front of the first region of a marked text, and the cuts. -/
def regions : List (Char × Bool) → List Char × List Cut
  | [] => ([], [])
  | (c, true) :: rest => ([], openedBy [c] (regions rest))
  | (c, false) :: rest => (c :: (regions rest).1, (regions rest).2)

/-- A marked text is divided by its regions: none of them is empty, and two neighbours have
some text between them. -/
structure Divides (marks : List (Char × Bool)) (lead : List Char) (cuts : List Cut) : Prop where
  whole : marks = lead.map (·, false) ++
    cuts.flatMap fun cut => cut.removed.map (·, true) ++ cut.kept.map (·, false)
  taken : ∀ cut ∈ cuts, cut.removed ≠ []
  apart : ∀ cut ∈ cuts.dropLast, cut.kept ≠ []

/-! ## Marks -/

theorem marked_congr
    {first second : Nat → Bool} {chars : List Char}
    (same : ∀ place < chars.length, first place = second place) :
    marked first chars = marked second chars := by
  apply List.ext_getElem
  · simp [marked]
  · intro place inFirst inSecond
    have inside : place < chars.length := by simpa [marked] using inFirst
    simp [marked, same place inside]

theorem drop_marked_congr
    {first second : Nat → Bool} {chars : List Char} {cursor : Nat}
    (same : ∀ place, cursor ≤ place → first place = second place) :
    (marked first chars).drop cursor = (marked second chars).drop cursor := by
  apply List.ext_getElem
  · simp [marked]
  · intro place inFirst inSecond
    simp [marked, same (cursor + place) (Nat.le_add_right cursor place)]

theorem drop_eq_take_append
    {α : Type} (items : List α) {first second : Nat} (ordered : first ≤ second) :
    items.drop first = (items.drop first).take (second - first) ++ items.drop second := by
  have rest : items.drop second = (items.drop first).drop (second - first) := by
    rw [List.drop_drop, Nat.add_sub_cancel' ordered]
  rw [rest, List.take_append_drop]

/-- The marks of a stretch that is taken or left as a whole. -/
theorem take_drop_marked
    {taken : Nat → Bool} {mark : Bool} {first second : Nat} (chars : List Char)
    (constant : ∀ place, first ≤ place → place < second → taken place = mark) :
    ((marked taken chars).drop first).take (second - first) =
      ((chars.drop first).take (second - first)).map (·, mark) := by
  apply List.ext_getElem
  · simp [marked]
  · intro place inMarks inText
    have before : first + place < second := by
      rw [List.length_take] at inMarks
      omega
    simp [marked, constant (first + place) (Nat.le_add_right first place) before]

/-! ## Regions -/

theorem divides_openedBy
    {marks : List (Char × Bool)} {lead : List Char} {cuts : List Cut} (c : Char)
    (divides : Divides marks lead cuts) :
    Divides ((c, true) :: marks) [] (openedBy [c] (lead, cuts)) := by
  obtain ⟨rfl, taken, apart⟩ := divides
  cases lead with
  | nil =>
      cases cuts with
      | nil => exact ⟨by simp [openedBy], by simp [openedBy], by simp [openedBy]⟩
      | cons cut more =>
          refine ⟨by simp [openedBy], ?_, ?_⟩
          · simpa [openedBy] using fun other member => taken other (List.mem_cons_of_mem cut member)
          · cases more with
            | nil => simp [openedBy]
            | cons next later => simpa [openedBy] using apart
  | cons first text =>
      refine ⟨by simp [openedBy], by simpa [openedBy] using taken, ?_⟩
      cases cuts with
      | nil => simp [openedBy]
      | cons cut more => simpa [openedBy] using apart

/-- The regions of a marked text put it together again. -/
theorem divides_regions (marks : List (Char × Bool)) :
    Divides marks (regions marks).1 (regions marks).2 := by
  induction marks with
  | nil => exact ⟨rfl, by simp [regions], by simp [regions]⟩
  | cons mark rest inductionHypothesis =>
      obtain ⟨c, taken⟩ := mark
      cases taken with
      | true => exact divides_openedBy c inductionHypothesis
      | false =>
          obtain ⟨whole, taken, apart⟩ := inductionHypothesis
          refine ⟨?_, taken, apart⟩
          simp only [regions, List.map_cons, List.cons_append, ← whole]

theorem regions_kept_append (text : List Char) (rest : List (Char × Bool)) :
    regions (text.map (·, false) ++ rest) = (text ++ (regions rest).1, (regions rest).2) := by
  induction text with
  | nil => rfl
  | cons c more inductionHypothesis =>
      simp only [List.map_cons, List.cons_append, regions, inductionHypothesis]

theorem openedBy_openedBy (c : Char) (removed : List Char) (layout : List Char × List Cut) :
    openedBy [c] ([], openedBy removed layout) = openedBy (c :: removed) layout := by
  obtain ⟨lead, cuts⟩ := layout
  cases lead with
  | nil => cases cuts <;> simp [openedBy]
  | cons first text => simp [openedBy]

theorem regions_removed_append
    {removed : List Char} (nonempty : removed ≠ []) (rest : List (Char × Bool)) :
    regions (removed.map (·, true) ++ rest) = ([], openedBy removed (regions rest)) := by
  induction removed with
  | nil => exact absurd rfl nonempty
  | cons c more inductionHypothesis =>
      cases more with
      | nil => rfl
      | cons next later =>
          rw [List.map_cons, List.cons_append, regions, inductionHypothesis (by simp),
            openedBy_openedBy]

/-! ## Seams without a trace -/

@[simp]
theorem joinSeam_nil (left : List Char) : joinSeam left [] = trimEnd isInlineBlank left := by
  simp [joinSeam]

theorem joinSeam_trimEnd (left right : List Char) :
    joinSeam (trimEnd isInlineBlank left) right = joinSeam left right := by
  simp only [joinSeam, trimEnd_trimEnd]

theorem foldl_openedBy
    (left removed : List Char) (layout : List Char × List Cut) :
    ((openedBy removed layout).map Cut.kept).foldl joinSeam left =
      (layout.1 :: layout.2.map Cut.kept).foldl joinSeam left := by
  obtain ⟨lead, cuts⟩ := layout
  cases lead with
  | nil =>
      cases cuts with
      | nil => rfl
      | cons cut more =>
          simp only [openedBy, List.map_cons, List.foldl_cons, joinSeam_nil, joinSeam_trimEnd]
  | cons first text => rfl

/-! ## Pieces -/

/-- Whether one of some stretches takes the character at a place. -/
def within (bounds : List (Nat × Nat)) (place : Nat) : Bool :=
  bounds.any fun bound => decide (bound.1 ≤ place) && decide (place < bound.2)

theorem within_cons (bound : Nat × Nat) (bounds : List (Nat × Nat)) (place : Nat) :
    within (bound :: bounds) place =
      (decide (bound.1 ≤ place) && decide (place < bound.2) || within bounds place) :=
  List.any_cons

theorem within_cons_of_missed
    {bound : Nat × Nat} {bounds : List (Nat × Nat)} {place : Nat}
    (missed : place < bound.1 ∨ bound.2 ≤ place) :
    within (bound :: bounds) place = within bounds place := by
  have outside : (decide (bound.1 ≤ place) && decide (place < bound.2)) = false := by
    simp only [Bool.and_eq_false_iff, decide_eq_false_iff_not]
    omega
  rw [within_cons, outside, Bool.false_or]

theorem within_of_before
    {bounds : List (Nat × Nat)} {place : Nat} (before : ∀ bound ∈ bounds, place < bound.1) :
    within bounds place = false := by
  simp only [within, List.any_eq_false, Bool.and_eq_true, decide_eq_true_eq, not_and]
  intro bound member behind
  have later := before bound member
  omega

theorem regions_marked_none (chars : List Char) (cursor : Nat) :
    regions ((marked (within []) chars).drop cursor) = (chars.drop cursor, []) := by
  have nothing : marked (within []) chars = chars.map (·, false) := by
    apply List.ext_getElem
    · simp [marked]
    · intro place inMarks inText
      simp [marked, within]
  have kept := regions_kept_append (chars.drop cursor) []
  rw [nothing, ← List.map_drop]
  simpa [regions] using kept

theorem regions_of_left
    {taken : Nat → Bool} {chars : List Char} {first second : Nat} (ordered : first ≤ second)
    (left : ∀ place, first ≤ place → place < second → taken place = false) :
    regions ((marked taken chars).drop first) =
      ((chars.drop first).take (second - first) ++
          (regions ((marked taken chars).drop second)).1,
        (regions ((marked taken chars).drop second)).2) := by
  rw [drop_eq_take_append _ ordered, take_drop_marked chars left, regions_kept_append]

theorem regions_of_taken
    {taken : Nat → Bool} {chars : List Char} {first second : Nat} (ordered : first < second)
    (inside : second ≤ chars.length)
    (all : ∀ place, first ≤ place → place < second → taken place = true) :
    regions ((marked taken chars).drop first) =
      ([], openedBy ((chars.drop first).take (second - first))
        (regions ((marked taken chars).drop second))) := by
  have nonempty : (chars.drop first).take (second - first) ≠ [] := by
    apply List.ne_nil_of_length_pos
    rw [List.length_take, List.length_drop]
    omega
  rw [drop_eq_take_append _ (Nat.le_of_lt ordered), take_drop_marked chars all,
    regions_removed_append nonempty]

theorem regions_skip
    {chars : List Char} {cursor start stop : Nat} {more : List (Nat × Nat)}
    (short : stop ≤ max start cursor) :
    regions ((marked (within ((start, stop) :: more)) chars).drop cursor) =
      regions ((marked (within more) chars).drop cursor) := by
  congr 1
  apply drop_marked_congr
  intro place behind
  apply within_cons_of_missed
  show place < start ∨ stop ≤ place
  omega

/-- A stretch that is cut out opens a new region. -/
theorem regions_cut
    {chars : List Char} {cursor start stop : Nat} {more : List (Nat × Nat)}
    (long : max start cursor < stop) (inside : stop ≤ chars.length)
    (later : ∀ bound ∈ more, start ≤ bound.1) :
    ∃ removed,
      regions ((marked (within ((start, stop) :: more)) chars).drop cursor) =
        ((chars.drop cursor).take (max start cursor - cursor),
          openedBy removed (regions ((marked (within more) chars).drop stop))) := by
  have left : ∀ place, cursor ≤ place → place < max start cursor →
      within ((start, stop) :: more) place = false := by
    intro place behind before
    apply within_of_before
    intro bound member
    rcases List.mem_cons.1 member with rfl | moreMember
    · show place < start
      omega
    · have further := later bound moreMember
      omega
  have all : ∀ place, max start cursor ≤ place → place < stop →
      within ((start, stop) :: more) place = true := by
    intro place behind before
    rw [within_cons, Bool.or_eq_true, Bool.and_eq_true, decide_eq_true_eq, decide_eq_true_eq]
    exact Or.inl ⟨Nat.le_trans (Nat.le_max_left start cursor) behind, before⟩
  have rest : (marked (within ((start, stop) :: more)) chars).drop stop =
      (marked (within more) chars).drop stop := by
    apply drop_marked_congr
    intro place behind
    exact within_cons_of_missed (Or.inr behind)
  refine ⟨(chars.drop (max start cursor)).take (stop - max start cursor), ?_⟩
  rw [regions_of_left (Nat.le_max_right start cursor) left, regions_of_taken long inside all,
    List.append_nil, rest]

/-- Behind any text on the left, pieces are joined as the texts around the regions are. -/
theorem foldl_pieces
    {chars : List Char} {cursor : Nat} {bounds : List (Nat × Nat)}
    (sorted : bounds.Pairwise fun first second => first.1 ≤ second.1)
    (inside : ∀ bound ∈ bounds, bound.2 ≤ chars.length) (left : List Char) :
    let layout := regions ((marked (within bounds) chars).drop cursor)
    (pieces chars cursor bounds).foldl joinSeam left =
        (layout.1 :: layout.2.map Cut.kept).foldl joinSeam left ∧
      joinPieces (pieces chars cursor bounds) =
        (layout.2.map Cut.kept).foldl joinSeam layout.1 := by
  induction bounds generalizing cursor left with
  | nil =>
      have nothing := regions_marked_none chars cursor
      rw [pieces, nothing]
      exact ⟨rfl, rfl⟩
  | cons bound more inductionHypothesis =>
      obtain ⟨start, stop⟩ := bound
      obtain ⟨later, moreSorted⟩ := List.pairwise_cons.1 sorted
      have moreInside : ∀ bound ∈ more, bound.2 ≤ chars.length :=
        fun bound member => inside bound (List.mem_cons_of_mem _ member)
      rw [pieces]
      by_cases short : stop ≤ max start cursor
      · rw [if_pos short, regions_skip short]
        exact inductionHypothesis moreSorted moreInside left
      · obtain ⟨removed, cut⟩ := regions_cut (Nat.lt_of_not_le short)
          (inside (start, stop) List.mem_cons_self) later
        rw [if_neg short, cut]
        refine ⟨?_, ?_⟩
        · rw [List.foldl_cons, List.foldl_cons, foldl_openedBy]
          exact (inductionHypothesis moreSorted moreInside _).1
        · rw [joinPieces, foldl_openedBy]
          exact (inductionHypothesis moreSorted moreInside _).1

/-! ## Spans -/

theorem within_clipped
    {length place : Nat} (inside : place < length) (spans : List Span) :
    within (spans.map (Span.clipped length)) place = covered spans place := by
  rw [within, covered, List.any_map]
  congr 1
  funext span
  rw [Bool.eq_iff_iff]
  simp only [Function.comp_apply, Span.clipped, Span.covers, Bool.and_eq_true, decide_eq_true_eq,
    Int.toNat_le, Nat.lt_min, Int.lt_toNat, inside, true_and]

theorem notAfter_trans (a b c : Nat × Nat) (first : notAfter a b = true)
    (second : notAfter b c = true) : notAfter a c = true := by
  simp only [notAfter, Bool.or_eq_true, Bool.and_eq_true, decide_eq_true_eq, beq_iff_eq] at *
  omega

theorem fst_le_of_notAfter {a b : Nat × Nat} (ordered : notAfter a b = true) : a.1 ≤ b.1 := by
  simp only [notAfter, Bool.or_eq_true, Bool.and_eq_true, decide_eq_true_eq, beq_iff_eq] at ordered
  omega

theorem notAfter_total (a b : Nat × Nat) : (notAfter a b || notAfter b a) = true := by
  simp only [notAfter, Bool.or_eq_true, Bool.and_eq_true, decide_eq_true_eq, beq_iff_eq]
  omega

/-- Cutting joins the texts around the regions that the spans take. -/
theorem strip_eq_regions (chars : List Char) (spans : List Span) :
    strip chars spans =
      trim (((regions (marked (covered spans) chars)).2.map Cut.kept).foldl joinSeam
        (regions (marked (covered spans) chars)).1) := by
  have sorted := (List.pairwise_mergeSort notAfter_trans notAfter_total
    (spans.map (Span.clipped chars.length))).imp fst_le_of_notAfter
  have perm := List.mergeSort_perm (spans.map (Span.clipped chars.length)) notAfter
  have inside : ∀ bound ∈ (spans.map (Span.clipped chars.length)).mergeSort notAfter,
      bound.2 ≤ chars.length := by
    intro bound member
    obtain ⟨span, _, rfl⟩ := List.mem_map.1 (perm.mem_iff.1 member)
    exact Nat.min_le_left _ _
  have sameMarks :
      marked (within ((spans.map (Span.clipped chars.length)).mergeSort notAfter)) chars =
        marked (covered spans) chars := by
    apply marked_congr
    intro place inText
    rw [← within_clipped inText, within, within]
    exact perm.any_eq
  rw [strip, (foldl_pieces sorted inside []).2, List.drop_zero, sameMarks]

/-- Spans that take the same characters leave the same text, in whatever order they come and
whether they overlap, touch, are empty or lie outside of the text. -/
theorem strip_eq_strip_of_covered
    {chars : List Char} {first second : List Span}
    (same : ∀ place < chars.length, covered first place = covered second place) :
    strip chars first = strip chars second := by
  rw [strip_eq_regions, strip_eq_regions, marked_congr same]

/-- A word and the end of a text, taken by overlapping spans in order, or by touching, empty,
reversed and negative ones out of order. -/
theorem strip_scattered_spans :
    (∀ place < "abc XXXX def".toList.length,
      covered [⟨4, 8⟩, ⟨6, 8⟩, ⟨10, 99⟩] place =
        covered [⟨11, 12⟩, ⟨6, 8⟩, ⟨-7, -2⟩, ⟨9, 3⟩, ⟨4, 6⟩, ⟨5, 5⟩, ⟨10, 11⟩, ⟨40, 60⟩] place) ∧
      strip "abc XXXX def".toList [⟨4, 8⟩, ⟨6, 8⟩, ⟨10, 99⟩] =
        strip "abc XXXX def".toList
          [⟨11, 12⟩, ⟨6, 8⟩, ⟨-7, -2⟩, ⟨9, 3⟩, ⟨4, 6⟩, ⟨5, 5⟩, ⟨10, 11⟩, ⟨40, 60⟩] ∧
      strip "abc XXXX def".toList [⟨4, 8⟩, ⟨6, 8⟩, ⟨10, 99⟩] = "abc d".toList := by
  refine ⟨by decide, strip_eq_strip_of_covered (by decide), ?_⟩
  rw [strip_eq_regions]
  decide

end Reply

end QuoteDesk
