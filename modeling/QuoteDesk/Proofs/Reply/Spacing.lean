import QuoteDesk.Proofs.Reply.Seams

/-!
# The gap at a seam

A seam stands between two characters that are left, past the spaces and tabs around it.  In
the result one space parts them, or nothing where a line break or closing punctuation asks for
none.  A text may be joined one character after another; then a seam sees nothing but the
character in front of it and the character behind it, however many seams there were before.
A carriage return in front of a seam is not looked at, and this is the only place where the
gap is another one than the characters ask for.
-/

namespace QuoteDesk

namespace Reply

open Text

/-- The characters that end a line. -/
def isLineBreak (c : Char) : Bool :=
  c == '\n' || c == '\r'

/-- What two characters ask to stand between them: nothing next to a line break or in front of
closing punctuation, and one space otherwise. -/
def askedGap (left right : Char) : List Char :=
  if isLineBreak left || isLineBreak right || isClosing right then [] else [' ']

/-- What a seam puts between two characters. -/
def seamGap (left right : Char) : List Char :=
  if left == '\n' || isLineBreak right || isClosing right then [] else [' ']

/-- The characters of a marked text that are not taken. -/
def kept (marks : List (Char × Bool)) : List Char :=
  (marks.filter fun mark => !mark.2).map Prod.fst

/-- A seam of a text: two characters that are not taken, with nothing but characters that are
taken, spaces and tabs between them, and something visible up to the first and from the second
one on, so that both are left when the ends are trimmed. -/
structure Seam (chars : List Char) (spans : List Span) where
  before : List (Char × Bool)
  left : Char
  between : List (Char × Bool)
  right : Char
  after : List (Char × Bool)
  whole : marked (covered spans) chars =
    before ++ (left, false) :: (between ++ (right, false) :: after)
  leftSolid : isInlineBlank left = false
  rightSolid : isInlineBlank right = false
  bare : ∀ mark ∈ between, mark.2 = true ∨ isInlineBlank mark.1 = true
  cut : ∃ mark ∈ between, mark.2 = true
  leftStays : ink (kept before ++ [left]) ≠ []
  rightStays : ink (right :: kept after) ≠ []

/-- A gap parts the two characters of a seam in the result: there they stand behind and in
front of what is left of the text before and after them. -/
def Seam.PartedBy {chars : List Char} {spans : List Span} (seam : Seam chars spans)
    (gap : List Char) : Prop :=
  ∃ first second,
    strip chars spans = first ++ seam.left :: (gap ++ seam.right :: second) ∧
      solid first = trimStart isBlank (solid (kept seam.before)) ∧
      solid second = trimEnd isBlank (solid (kept seam.after))

/-- A front that no seam reaches into. -/
def Closed (front : List Char) : Prop :=
  ∀ text, trimEnd isInlineBlank (front ++ text) = front ++ trimEnd isInlineBlank text

/-- Joins a marked text behind what is joined already, one character after another. -/
def joinMarks (atSeam : Bool) (joined : List Char) : List (Char × Bool) → List Char
  | [] => if atSeam then trimEnd isInlineBlank joined else joined
  | (_, true) :: rest => joinMarks true joined rest
  | (c, false) :: rest =>
      if atSeam then joinMarks (isInlineBlank c) (joinSeam joined [c]) rest
      else joinMarks false (joined ++ [c]) rest

/-! ## One character after another -/

theorem joinSeam_cons_of_solid
    {c : Char} (isSolid : isInlineBlank c = false) (left rest : List Char) :
    joinSeam left (c :: rest) = joinSeam left [c] ++ rest := by
  simp only [joinSeam, trimStart_of_head _ isSolid, touches, List.head?_cons, List.isEmpty_cons]
  split
  · rw [List.append_assoc, List.singleton_append]
  · rw [List.append_assoc, List.cons_append, List.singleton_append]

theorem joinSeam_cons_of_blank
    {c : Char} (blank : isInlineBlank c = true) (left rest : List Char) :
    joinSeam left (c :: rest) = joinSeam left rest := by
  have skipped : trimStart isInlineBlank (c :: rest) = trimStart isInlineBlank rest :=
    List.dropWhile_cons_of_pos blank
  rw [joinSeam, joinSeam, skipped]

theorem joinSeam_blank
    {c : Char} (blank : isInlineBlank c = true) (left : List Char) :
    joinSeam left [c] = trimEnd isInlineBlank left := by
  rw [joinSeam_cons_of_blank blank, joinSeam_nil]

/-- In a text the marks go on with it up to their first region; at a seam that part is joined
to it like the others. -/
theorem joinMarks_eq_foldl (joined : List Char) (marks : List (Char × Bool)) :
    joinMarks false joined marks =
        ((regions marks).2.map Cut.kept).foldl joinSeam (joined ++ (regions marks).1) ∧
      joinMarks true joined marks =
        ((regions marks).1 :: (regions marks).2.map Cut.kept).foldl joinSeam joined := by
  -- Either form leads to the other one at the next mark, so both go through together.
  induction marks generalizing joined with
  | nil => simp [joinMarks, regions]
  | cons mark rest inductionHypothesis =>
      obtain ⟨c, taken⟩ := mark
      cases taken with
      | true =>
          simp only [joinMarks, regions, List.append_nil, List.foldl_cons, joinSeam_nil,
            foldl_openedBy, joinSeam_trimEnd, (inductionHypothesis joined).2, and_self]
      | false =>
          simp only [joinMarks, regions, if_true, Bool.false_eq_true, if_false]
          refine ⟨?_, ?_⟩
          · rw [(inductionHypothesis _).1, List.append_assoc, List.singleton_append]
          · rw [List.foldl_cons]
            cases blank : isInlineBlank c with
            | true =>
                rw [(inductionHypothesis _).2, List.foldl_cons, joinSeam_blank blank,
                  joinSeam_trimEnd, joinSeam_cons_of_blank blank]
            | false =>
                rw [(inductionHypothesis _).1,
                  joinSeam_cons_of_solid blank joined (regions rest).1]

/-- Stripping depends on which positions are covered and on nothing else. -/
theorem strip_eq_joinMarks (chars : List Char) (spans : List Span) :
    strip chars spans = trim (joinMarks false [] (marked (covered spans) chars)) := by
  rw [strip_eq_regions, (joinMarks_eq_foldl [] _).1, List.nil_append]

/-! ## Up to a seam, over it and behind it -/

theorem closed_nil : Closed [] := fun _ => rfl

theorem closed_append_solid
    {c : Char} (isSolid : isInlineBlank c = false) (front : List Char) :
    Closed (front ++ [c]) := by
  intro text
  rw [List.append_assoc, List.singleton_append, trimEnd_append_cons isSolid, List.append_assoc,
    List.singleton_append]

/-- Behind a closed front the characters other than spaces and tabs stay in their order,
whatever becomes of spaces and tabs. -/
theorem exists_joinMarks_append
    {front : List Char} (closed : Closed front)
    (atSeam : Bool) (text : List Char) (marks rest : List (Char × Bool)) :
    ∃ stillAtSeam more,
      joinMarks atSeam (front ++ text) (marks ++ rest) =
          joinMarks stillAtSeam (front ++ more) rest ∧
        solid more = solid text ++ solid (kept marks) := by
  induction marks generalizing atSeam text with
  | nil => exact ⟨atSeam, text, rfl, by simp [kept, solid]⟩
  | cons mark later inductionHypothesis =>
      obtain ⟨c, taken⟩ := mark
      cases taken with
      | true =>
          obtain ⟨stillAtSeam, more, joins, same⟩ := inductionHypothesis true text
          exact ⟨stillAtSeam, more, joins, same⟩
      | false =>
          have split : solid (kept ((c, false) :: later)) = solid [c] ++ solid (kept later) := by
            rw [← solid_append]
            rfl
          cases atSeam with
          | true =>
              obtain ⟨fill, blank, -, seam⟩ := exists_fill (front ++ text) [c]
              have nothing : solid fill = [] := by
                rcases blank with rfl | rfl
                · rfl
                · rfl
              obtain ⟨stillAtSeam, more, joins, same⟩ :=
                inductionHypothesis (isInlineBlank c)
                  (trimEnd isInlineBlank text ++ fill ++ trimStart isInlineBlank [c])
              refine ⟨stillAtSeam, more, ?_, ?_⟩
              · rw [← joins, List.cons_append, joinMarks, if_pos rfl, seam, closed]
                simp only [List.append_assoc]
              · rw [same, split, solid_append, solid_append, solid_trimEnd, solid_trimStart,
                  nothing, List.append_nil, List.append_assoc]
          | false =>
              obtain ⟨stillAtSeam, more, joins, same⟩ := inductionHypothesis false (text ++ [c])
              refine ⟨stillAtSeam, more, ?_, ?_⟩
              · rw [← joins, List.cons_append, joinMarks, if_neg Bool.false_ne_true,
                  List.append_assoc]
              · rw [same, split, solid_append, List.append_assoc]

theorem exists_joinMarks_solid
    {c : Char} (isSolid : isInlineBlank c = false) (atSeam : Bool) (text : List Char)
    (rest : List (Char × Bool)) :
    ∃ more,
      joinMarks atSeam text ((c, false) :: rest) = joinMarks false (more ++ [c]) rest ∧
        solid more = solid text := by
  cases atSeam with
  | true =>
      obtain ⟨fill, blank, -, seam⟩ := exists_fill text [c]
      refine ⟨trimEnd isInlineBlank text ++ fill, ?_, ?_⟩
      · rw [joinMarks, if_pos rfl, seam, isSolid, trimStart_of_head [] isSolid]
      · rw [solid_append, solid_trimEnd]
        rcases blank with rfl | rfl
        · exact List.append_nil _
        · exact List.append_nil _
  | false => exact ⟨text, by rw [joinMarks, if_neg Bool.false_ne_true], rfl⟩

theorem exists_joinMarks_behind
    {front : List Char} (closed : Closed front) (marks : List (Char × Bool)) :
    ∃ behind,
      joinMarks false front marks = front ++ behind ∧ solid behind = solid (kept marks) := by
  obtain ⟨atSeam, more, joins, same⟩ := exists_joinMarks_append closed false [] marks []
  rw [List.append_nil, List.append_nil] at joins
  cases atSeam with
  | true => exact ⟨trimEnd isInlineBlank more, by rw [joins, joinMarks, if_pos rfl, closed],
      (solid_trimEnd more).trans same⟩
  | false => exact ⟨more, joins, same⟩

theorem joinMarks_true_trimEnd (joined : List Char) (marks : List (Char × Bool)) :
    joinMarks true (trimEnd isInlineBlank joined) marks = joinMarks true joined marks := by
  rw [(joinMarks_eq_foldl _ marks).2, (joinMarks_eq_foldl _ marks).2, List.foldl_cons,
    List.foldl_cons, joinSeam_trimEnd]

theorem joinMarks_true_append_blank
    {c : Char} (blank : isInlineBlank c = true) (joined : List Char)
    (marks : List (Char × Bool)) :
    joinMarks true (joined ++ [c]) marks = joinMarks true joined marks := by
  have trimmed : trimEnd isInlineBlank (joined ++ [c]) = trimEnd isInlineBlank joined := by
    rw [trimEnd_append_eq, if_pos]
    simp [trimEnd, blank]
  rw [← joinMarks_true_trimEnd, trimmed, joinMarks_true_trimEnd]

theorem joinMarks_true_bare
    {between : List (Char × Bool)}
    (bare : ∀ mark ∈ between, mark.2 = true ∨ isInlineBlank mark.1 = true)
    (joined : List Char) (rest : List (Char × Bool)) :
    joinMarks true joined (between ++ rest) = joinMarks true joined rest := by
  induction between generalizing joined with
  | nil => rfl
  | cons mark later inductionHypothesis =>
      obtain ⟨first, laterBare⟩ := List.forall_mem_cons.1 bare
      obtain ⟨c, taken⟩ := mark
      cases taken with
      | true => exact inductionHypothesis laterBare joined
      | false =>
          have blank : isInlineBlank c = true := by simpa using first
          rw [List.cons_append, joinMarks, if_pos rfl, blank, joinSeam_blank blank,
            inductionHypothesis laterBare, joinMarks_true_trimEnd]

theorem joinMarks_false_bare
    {between : List (Char × Bool)}
    (bare : ∀ mark ∈ between, mark.2 = true ∨ isInlineBlank mark.1 = true)
    (cut : ∃ mark ∈ between, mark.2 = true)
    (joined : List Char) (rest : List (Char × Bool)) :
    joinMarks false joined (between ++ rest) = joinMarks true joined rest := by
  induction between generalizing joined with
  | nil =>
      obtain ⟨mark, member, -⟩ := cut
      cases member
  | cons mark later inductionHypothesis =>
      obtain ⟨first, laterBare⟩ := List.forall_mem_cons.1 bare
      obtain ⟨c, taken⟩ := mark
      cases taken with
      | true => exact joinMarks_true_bare laterBare joined rest
      | false =>
          have blank : isInlineBlank c = true := by simpa using first
          have laterCut : ∃ mark ∈ later, mark.2 = true := by simpa using cut
          rw [List.cons_append, joinMarks, if_neg Bool.false_ne_true,
            inductionHypothesis laterBare laterCut, joinMarks_true_append_blank blank]

theorem joinSeam_solid
    {left right : Char} (leftSolid : isInlineBlank left = false)
    (rightSolid : isInlineBlank right = false) (text : List Char) :
    joinSeam (text ++ [left]) [right] = text ++ left :: (seamGap left right ++ [right]) := by
  have same : touches (text ++ [left]) [right] =
      (left == '\n' || isLineBreak right || isClosing right) := by
    simp [touches, isLineBreak, Bool.or_assoc, Bool.beq_eq_decide_eq]
  have occupied : (text ++ [left]).isEmpty = false := by
    simp
  simp only [joinSeam, trimEnd_append_cons leftSolid, trimStart_of_head [] rightSolid,
    trimEnd_nil, same, seamGap, occupied, List.isEmpty_cons, Bool.false_or]
  split
  · rw [List.append_assoc, List.nil_append, List.singleton_append]
  · rw [List.append_assoc, List.singleton_append, List.singleton_append]

/-- The two rules for a gap part behind a carriage return alone. -/
theorem askedGap_eq_seamGap_iff (left right : Char) :
    askedGap left right = seamGap left right ↔
      (left = '\r' → isLineBreak right = true ∨ isClosing right = true) := by
  by_cases carriage : left = '\r'
  · subst carriage
    have ends : isLineBreak '\r' = true := rfl
    cases breaks : isLineBreak right with
    | true => simp [askedGap, seamGap, breaks]
    | false =>
        cases closes : isClosing right with
        | true => simp [askedGap, seamGap, closes]
        | false => simp [askedGap, seamGap, breaks, closes, ends]
  · have same : isLineBreak left = (left == '\n') := by
      simp [isLineBreak, carriage]
    simp [askedGap, seamGap, same, carriage]

theorem eq_of_append_solid_of_eq_nil
    {c : Char} (isSolid : isInlineBlank c = false) {middle rest other : List Char}
    (same : c :: rest = middle ++ c :: other) (nothing : solid middle = []) :
    rest = other := by
  cases middle with
  | nil => exact (List.cons.inj same).2
  | cons d more =>
      obtain ⟨rfl, -⟩ := List.cons.inj same
      simp [solid, isSolid] at nothing

/-- Two ways to split a text at the same character agree when as many characters other than
spaces and tabs stand in front of it. -/
theorem eq_of_append_solid
    {c : Char} (isSolid : isInlineBlank c = false) {first second rest other : List Char}
    (same : first ++ c :: rest = second ++ c :: other) (sameSolid : solid first = solid second) :
    rest = other := by
  rcases List.append_eq_append_iff.1 same with ⟨middle, rfl, shape⟩ | ⟨middle, rfl, shape⟩
  · exact eq_of_append_solid_of_eq_nil isSolid shape (by simpa using sameSolid)
  · exact (eq_of_append_solid_of_eq_nil isSolid shape (by simpa using sameSolid)).symm

namespace Seam

variable {chars : List Char} {spans : List Span} (seam : Seam chars spans)

/-- Before the ends are trimmed, the two characters of a seam are parted by its gap. -/
theorem exists_joined :
    ∃ first second,
      joinMarks false [] (marked (covered spans) chars) =
          first ++ seam.left :: (seamGap seam.left seam.right ++ seam.right :: second) ∧
        solid first = solid (kept seam.before) ∧ solid second = solid (kept seam.after) := by
  obtain ⟨atSeam, text, upTo, sameText⟩ :=
    exists_joinMarks_append closed_nil false [] seam.before
      ((seam.left, false) :: (seam.between ++ (seam.right, false) :: seam.after))
  obtain ⟨first, overLeft, sameFirst⟩ :=
    exists_joinMarks_solid seam.leftSolid atSeam text
      (seam.between ++ (seam.right, false) :: seam.after)
  have overSeam :
      joinMarks false (first ++ [seam.left]) (seam.between ++ (seam.right, false) :: seam.after) =
        joinMarks false (first ++ seam.left :: seamGap seam.left seam.right ++ [seam.right])
          seam.after := by
    rw [joinMarks_false_bare seam.bare seam.cut, joinMarks, if_pos rfl, seam.rightSolid,
      joinSeam_solid seam.leftSolid seam.rightSolid, List.append_assoc, List.cons_append]
  obtain ⟨second, behind, sameSecond⟩ :=
    exists_joinMarks_behind (closed_append_solid seam.rightSolid _) seam.after
  refine ⟨first, second, ?_, sameFirst.trans sameText, sameSecond⟩
  rw [seam.whole]
  refine upTo.trans (overLeft.trans (overSeam.trans (behind.trans ?_)))
  simp only [List.append_assoc, List.cons_append, List.nil_append]

theorem partedBy_seamGap : seam.PartedBy (seamGap seam.left seam.right) := by
  obtain ⟨first, second, joins, sameFirst, sameSecond⟩ := seam.exists_joined
  have leftVisible : ink (first ++ [seam.left]) ≠ [] := by
    rw [ink_append, ← ink_solid first, sameFirst, ink_solid, ← ink_append]
    exact seam.leftStays
  have rightVisible : ink (seam.right :: second) ≠ [] := by
    rw [← List.singleton_append, ink_append, ← ink_solid second, sameSecond, ink_solid,
      ← ink_append]
    exact seam.rightStays
  -- Something visible keeps both characters, so either trimming ends before its own one.
  refine ⟨trimStart isBlank first, trimEnd isBlank second, ?_, ?_, ?_⟩
  · have apart : trimStart isBlank first ++ seam.left ::
          (seamGap seam.left seam.right ++ seam.right :: second) =
        trimStart isBlank first ++ seam.left :: seamGap seam.left seam.right ++
          seam.right :: second := by
      simp only [List.append_assoc, List.cons_append]
    rw [strip_eq_joinMarks, joins, trim, trimStart_append_cons_of_ink leftVisible, apart,
      trimEnd_append_cons_of_ink rightVisible]
    simp only [List.append_assoc, List.cons_append]
  · rw [← trimStart_solid, sameFirst]
  · rw [← trimEnd_solid, sameSecond]

/-- A seam is parted by one gap. -/
theorem partedBy_iff (gap : List Char) :
    seam.PartedBy gap ↔ gap = seamGap seam.left seam.right := by
  constructor
  · rintro ⟨first, second, strips, sameFirst, sameSecond⟩
    obtain ⟨otherFirst, otherSecond, otherStrips, sameOtherFirst, sameOtherSecond⟩ :=
      seam.partedBy_seamGap
    have behind :
        gap ++ seam.right :: second =
          seamGap seam.left seam.right ++ seam.right :: otherSecond :=
      eq_of_append_solid seam.leftSolid (strips.symm.trans otherStrips)
        (sameFirst.trans sameOtherFirst.symm)
    -- From the end the right character is found like the left one from the start.
    have reversed := congrArg List.reverse behind
    simp only [List.reverse_append, List.reverse_cons, List.append_assoc,
      List.singleton_append] at reversed
    apply List.reverse_injective
    refine eq_of_append_solid seam.rightSolid reversed ?_
    rw [solid_reverse, solid_reverse, sameSecond, sameOtherSecond]
  · rintro rfl
    exact seam.partedBy_seamGap

/-- At every seam the gap is the one that the two characters ask for, unless the first one is a
carriage return that the second one does not make up for. -/
theorem partedBy_askedGap_iff :
    (∀ gap, seam.PartedBy gap ↔ gap = seamGap seam.left seam.right) ∧
      (seam.PartedBy (askedGap seam.left seam.right) ↔
        (seam.left = '\r' → isLineBreak seam.right = true ∨ isClosing seam.right = true)) := by
  refine ⟨seam.partedBy_iff, ?_⟩
  rw [seam.partedBy_iff, askedGap_eq_seamGap_iff]

end Seam

/-- A seam between a carriage return and a word. -/
def carriageSeam : Seam "Done.\rXX Next".toList [⟨6, 8⟩] where
  before := "Done.".toList.map (·, false)
  left := '\r'
  between := [('X', true), ('X', true), (' ', false)]
  right := 'N'
  after := "ext".toList.map (·, false)
  whole := by decide
  leftSolid := rfl
  rightSolid := rfl
  bare := by decide
  cut := by decide
  leftStays := by decide
  rightStays := by decide

/-- A space stays next to a carriage return. -/
theorem not_partedBy_askedGap_carriageSeam :
    strip "Done.\rXX Next".toList [⟨6, 8⟩] = "Done.\r Next".toList ∧
      ¬ carriageSeam.PartedBy (askedGap carriageSeam.left carriageSeam.right) := by
  refine ⟨?_, ?_⟩
  · rw [strip_eq_joinMarks]
    decide
  · rw [Seam.partedBy_iff]
    decide

end Reply

end QuoteDesk
