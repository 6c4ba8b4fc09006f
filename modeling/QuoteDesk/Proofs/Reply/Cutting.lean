import QuoteDesk.Directive.Strip
import QuoteDesk.Proofs.Directive.Scanning

/-!
# Cutting directives out makes a text shorter

A seam puts back at most one space for the stretch that was cut out there, and
every directive is longer than that.  The stretches of the directives of a text
are in order and apart, so cutting takes all of each of them.
-/

namespace QuoteDesk.Reply

open Text

/-- Stretches in ascending order and apart, not before a place in a text of a
given length, each longer than one character. -/
def Ascending (length cursor : Nat) : List (Nat × Nat) → Prop
  | [] => cursor ≤ length
  | (start, stop) :: more =>
      cursor ≤ start ∧ start + 1 < stop ∧ Ascending length stop more

theorem Ascending.cursor_le
    {length cursor : Nat} {bounds : List (Nat × Nat)}
    (ascending : Ascending length cursor bounds) :
    cursor ≤ length := by
  induction bounds generalizing cursor with
  | nil => exact ascending
  | cons bound more inductionHypothesis =>
      obtain ⟨behind, long, moreAscending⟩ := ascending
      have moreInside := inductionHypothesis moreAscending
      omega

theorem Ascending.cursor_le_start
    {length cursor : Nat} {bounds : List (Nat × Nat)}
    (ascending : Ascending length cursor bounds) :
    ∀ bound ∈ bounds, cursor ≤ bound.1 := by
  induction bounds generalizing cursor with
  | nil =>
      intro bound member
      cases member
  | cons head more inductionHypothesis =>
      obtain ⟨behind, long, moreAscending⟩ := ascending
      intro bound member
      rcases List.mem_cons.1 member with rfl | moreMember
      · exact behind
      · have later := inductionHypothesis moreAscending bound moreMember
        omega

theorem Ascending.sorted
    {length cursor : Nat} {bounds : List (Nat × Nat)}
    (ascending : Ascending length cursor bounds) :
    bounds.Pairwise fun first second => notAfter first second = true := by
  induction bounds generalizing cursor with
  | nil => exact List.Pairwise.nil
  | cons head more inductionHypothesis =>
      obtain ⟨behind, long, moreAscending⟩ := ascending
      refine List.pairwise_cons.2 ⟨?_, inductionHypothesis moreAscending⟩
      intro second member
      have later := moreAscending.cursor_le_start second member
      have before : head.1 < second.1 := by omega
      simp [notAfter, before]

/-! ## Lengths -/

/-- A seam adds one character at most. -/
theorem joinSeam_length_le (left right : List Char) :
    (joinSeam left right).length ≤ left.length + right.length + 1 := by
  have leftKept := trimEnd_length_le isInlineBlank left
  have rightKept := trimStart_length_le isInlineBlank right
  simp only [joinSeam]
  split
  · rw [List.length_append]
    omega
  · rw [List.length_append, List.length_cons]
    omega

/-- Joining pieces adds at most one character for each seam. -/
private theorem foldl_joinSeam_length_le (first : List Char) (more : List (List Char)) :
    (more.foldl joinSeam first).length ≤
      first.length + more.flatten.length + more.length := by
  induction more generalizing first with
  | nil => simp
  | cons piece rest inductionHypothesis =>
      have seam := joinSeam_length_le first piece
      have joined := inductionHypothesis (joinSeam first piece)
      simp only [List.foldl_cons, List.flatten_cons, List.length_append, List.length_cons]
      omega

/-- Joining puts at most one character into every seam. -/
theorem joinPieces_length_le (parts : List (List Char)) :
    (joinPieces parts).length ≤ parts.flatten.length + (parts.length - 1) := by
  cases parts with
  | nil => simp [joinPieces]
  | cons first more =>
      have joined := foldl_joinSeam_length_le first more
      simp only [joinPieces, List.flatten_cons, List.length_append, List.length_cons]
      omega

/-- Cutting takes more than one character for each stretch. -/
theorem pieces_length
    {chars : List Char} {cursor : Nat} {bounds : List (Nat × Nat)}
    (ascending : Ascending chars.length cursor bounds) :
    (pieces chars cursor bounds).length = bounds.length + 1 ∧
      (pieces chars cursor bounds).flatten.length + 2 * bounds.length ≤
        chars.length - cursor := by
  induction bounds generalizing cursor with
  | nil => simp [pieces]
  | cons bound more inductionHypothesis =>
      obtain ⟨start, stop⟩ := bound
      obtain ⟨behind, long, moreAscending⟩ := ascending
      have inside := moreAscending.cursor_le
      obtain ⟨count, total⟩ := inductionHypothesis moreAscending
      have kept : ¬ stop ≤ max start cursor := by omega
      rw [pieces, if_neg kept]
      simp only [List.length_cons, List.flatten_cons, List.length_append,
        List.length_take, List.length_drop]
      omega

/-! ## The directives of a text -/

private theorem ascending_clipped
    {length cursor : Nat} {spans : List Span} (cursorInside : cursor ≤ length)
    (apart : spans.Pairwise fun first second => first.stop ≤ second.start)
    (bounded : ∀ span ∈ spans,
      (cursor : Int) ≤ span.start ∧ span.start + 1 < span.stop ∧ span.stop ≤ length) :
    Ascending length cursor (spans.map (Span.clipped length)) := by
  induction spans generalizing cursor with
  | nil => exact cursorInside
  | cons span more inductionHypothesis =>
      obtain ⟨apartFromMore, moreApart⟩ := List.pairwise_cons.1 apart
      obtain ⟨behind, long, inside⟩ := bounded span List.mem_cons_self
      simp only [List.map_cons, Span.clipped, Ascending]
      refine ⟨by omega, by omega, inductionHypothesis (by omega) moreApart ?_⟩
      intro next member
      have nextBounds := bounded next (List.mem_cons_of_mem span member)
      have nextBehind := apartFromMore next member
      omega

theorem ascending_directiveSpans (chars : List Char) :
    Ascending chars.length 0
      ((directiveSpans chars).map (Span.clipped chars.length)) := by
  apply ascending_clipped (Nat.zero_le chars.length)
  · exact List.pairwise_map.2 (Directive.scan_pairwise chars)
  · intro span member
    obtain ⟨directive, found, rfl⟩ := List.mem_map.1 member
    obtain ⟨mark, start, stop, stands, rfl⟩ := Directive.mem_scan.1 found
    have inside := stands.inside
    have long := stands.start_succ_lt_stop
    rw [Directive.ofMark_span_of_standsAt stands]
    simp only
    omega

/-- Cutting the directives out of a text that has some makes it shorter. -/
theorem strip_length_lt
    {chars : List Char} (some : Directive.scan chars ≠ []) :
    (strip chars (directiveSpans chars)).length < chars.length := by
  have ascending := ascending_directiveSpans chars
  have present : 0 < ((directiveSpans chars).map (Span.clipped chars.length)).length := by
    simpa [directiveSpans, List.length_pos_iff] using some
  have trimmed := trim_length_le
    (joinPieces (pieces chars 0 ((directiveSpans chars).map (Span.clipped chars.length))))
  have joined := joinPieces_length_le
    (pieces chars 0 ((directiveSpans chars).map (Span.clipped chars.length)))
  obtain ⟨count, total⟩ := pieces_length ascending
  -- The stretches come in order already, so sorting them leaves them alone.
  rw [strip, List.mergeSort_of_pairwise ascending.sorted]
  omega

@[simp]
theorem strip_nil (chars : List Char) : strip chars [] = trim chars := by
  simp [strip, pieces, joinPieces]

end QuoteDesk.Reply
