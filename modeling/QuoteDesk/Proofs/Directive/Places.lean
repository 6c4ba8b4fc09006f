import QuoteDesk.Directive.Mark

/-!
# Where marks stand in a text

A mark stands in a text wherever a stretch of the text is a word of its
written form.  Every word opens with a square bracket and holds no other
opening bracket.  Hence one mark never starts inside another one, and two
marks that start at the same place are the same mark and end at the same place.
-/

namespace QuoteDesk.Mark

/-- A mark stands in a text from `start` up to before `stop`. -/
structure StandsAt
    (chars : List Char) (mark : Mark) (start stop : Nat) : Prop where
  inside : stop ≤ chars.length
  spelled : Spells mark ((chars.drop start).take (stop - start))

/-! ## The shape of a word -/

/-- The word of a mark without gaps. -/
def word : Mark → List Char
  | .add sku quantity =>
      opening ++ addName ++ skuName ++ sku ++ [','] ++ quantityName ++ quantity ++ [']']
  | .remove sku => opening ++ removeName ++ skuName ++ sku ++ [']']

private theorem isGap_nil : IsGap [] := by
  intro c member
  cases member

theorem spells_word_add
    {sku quantity : List Char} (skuField : IsField sku) (quantityField : IsField quantity) :
    Spells (.add sku quantity) (word (.add sku quantity)) := by
  simpa [word] using Spells.add skuField quantityField isGap_nil isGap_nil

private theorem not_mem_of_isField
    {chars : List Char} (isField : IsField chars) : '[' ∉ chars := by
  intro member
  have allowed := isField '[' member
  simp [inField] at allowed

private theorem not_mem_of_isGap
    {chars : List Char} (isGap : IsGap chars) : '[' ∉ chars := by
  intro member
  have blank := isGap '[' member
  simp [Text.isInlineBlank] at blank

/-- A word opens with a bracket, and no other bracket opens in it. -/
theorem Spells.opens_once
    {mark : Mark} {word : List Char} (spelled : Spells mark word) :
    ∃ inner, word = '[' :: inner ∧ '[' ∉ inner := by
  cases spelled with
  | add skuField quantityField isGap isGap' =>
      refine ⟨_, rfl, ?_⟩
      have skuPlain := not_mem_of_isField skuField
      have quantityPlain := not_mem_of_isField quantityField
      have gapPlain := not_mem_of_isGap isGap
      have gapPlain' := not_mem_of_isGap isGap'
      simp [addName, skuName, quantityName, skuPlain, quantityPlain,
        gapPlain, gapPlain']
  | remove skuField isGap =>
      refine ⟨_, rfl, ?_⟩
      have skuPlain := not_mem_of_isField skuField
      have gapPlain := not_mem_of_isGap isGap
      simp [removeName, skuName, skuPlain, gapPlain]

/-- A word is longer than the space that may take its place. -/
theorem Spells.one_lt_length
    {mark : Mark} {word : List Char} (spelled : Spells mark word) :
    1 < word.length := by
  cases spelled with
  | add skuField quantityField isGap isGap' =>
      simp only [opening, List.cons_append, List.length_cons]
      omega
  | remove skuField isGap =>
      simp only [opening, List.cons_append, List.length_cons]
      omega

/-! ## Marks and the parts of a text -/

theorem standsAt_append
    {mark : Mark} {word : List Char} (spelled : Spells mark word)
    (before after : List Char) :
    StandsAt (before ++ word ++ after) mark
      before.length (before.length + word.length) where
  inside := by simp
  spelled := by simpa using spelled

namespace StandsAt

variable {chars : List Char} {mark mark' : Mark} {start stop start' stop' : Nat}

theorem start_succ_lt_stop (stands : StandsAt chars mark start stop) :
    start + 1 < stop := by
  have long := stands.spelled.one_lt_length
  simp only [List.length_take] at long
  omega

theorem start_lt_stop (stands : StandsAt chars mark start stop) :
    start < stop :=
  Nat.lt_of_succ_lt stands.start_succ_lt_stop

/-- The text falls into what stands before the mark, its word and the rest. -/
theorem exists_append (stands : StandsAt chars mark start stop) :
    ∃ before word after,
      chars = before ++ word ++ after ∧ Spells mark word ∧
        start = before.length ∧ stop = before.length + word.length := by
  have nonempty := stands.start_lt_stop
  have inside := stands.inside
  refine ⟨chars.take start, (chars.drop start).take (stop - start),
    (chars.drop start).drop (stop - start), ?_, stands.spelled, ?_, ?_⟩
  · rw [List.append_assoc, List.take_append_drop, List.take_append_drop]
  · rw [List.length_take]
    omega
  · simp only [List.length_take, List.length_drop]
    omega

/-- A mark that stands somewhere is split off there. -/
theorem split?_drop (stands : StandsAt chars mark start stop) :
    split? (chars.drop start) = some (mark, chars.drop stop) := by
  obtain ⟨before, word, after, rfl, spelled, rfl, rfl⟩ := stands.exists_append
  have tail : (before ++ word ++ after).drop (before.length + word.length) = after := by
    rw [← List.length_append, List.drop_left]
  rw [tail, List.append_assoc, List.drop_left]
  exact split?_of_spells spelled after

theorem opens (stands : StandsAt chars mark start stop) :
    chars[start]? = some '[' := by
  obtain ⟨before, word, after, rfl, spelled, rfl, rfl⟩ := stands.exists_append
  obtain ⟨inner, rfl, _⟩ := spelled.opens_once
  simp

/-- No bracket opens behind the first character of a mark. -/
theorem not_opens
    (stands : StandsAt chars mark start stop)
    {index : Nat} (behind : start < index) (within : index < stop) :
    chars[index]? ≠ some '[' := by
  obtain ⟨before, word, after, rfl, spelled, rfl, rfl⟩ := stands.exists_append
  obtain ⟨inner, rfl, once⟩ := spelled.opens_once
  intro opened
  obtain ⟨offset, rfl⟩ : ∃ offset, index = before.length + (offset + 1) :=
    ⟨index - before.length - 1, by omega⟩
  have inInner : offset < inner.length := by
    simp only [List.length_cons] at within
    omega
  rw [List.append_assoc, List.getElem?_append_right (by omega)] at opened
  simp only [Nat.add_sub_cancel_left, List.cons_append, List.getElem?_cons_succ,
    List.getElem?_append_left inInner] at opened
  exact once (List.mem_of_getElem? opened)

/-- Of two marks that start at different places, the first one ends before
the second one starts. -/
theorem stop_le_start
    (first : StandsAt chars mark start stop)
    (second : StandsAt chars mark' start' stop')
    (order : start < start') :
    stop ≤ start' := by
  by_cases overlap : start' < stop
  · exact False.elim (first.not_opens order overlap second.opens)
  · exact Nat.le_of_not_lt overlap

theorem unique
    (first : StandsAt chars mark start stop)
    (second : StandsAt chars mark' start stop') :
    mark = mark' ∧ stop = stop' := by
  have equal := first.split?_drop.symm.trans second.split?_drop
  simp only [Option.some.injEq, Prod.mk.injEq] at equal
  have lengths := congrArg List.length equal.2
  have firstInside := first.inside
  have secondInside := second.inside
  simp only [List.length_drop] at lengths
  exact ⟨equal.1, by omega⟩

theorem append
    (stands : StandsAt chars mark start stop) (before after : List Char) :
    StandsAt (before ++ chars ++ after) mark
      (before.length + start) (before.length + stop) := by
  obtain ⟨initial, word, rest, rfl, spelled, rfl, rfl⟩ := stands.exists_append
  have whole := standsAt_append spelled (before ++ initial) (rest ++ after)
  simpa [Nat.add_assoc] using whole

end StandsAt

theorem standsAt_cons_succ
    {c : Char} {rest : List Char} {mark : Mark} {start stop : Nat} :
    StandsAt (c :: rest) mark (start + 1) (stop + 1) ↔
      StandsAt rest mark start stop := by
  constructor
  · intro stands
    refine ⟨?_, ?_⟩
    · simpa using stands.inside
    · simpa using stands.spelled
  · intro stands
    simpa [Nat.add_comm] using stands.append [c] []

theorem standsAt_zero_iff
    {chars rest : List Char} {mark : Mark} :
    split? chars = some (mark, rest) ↔
      ∃ stop, StandsAt chars mark 0 stop ∧ rest = chars.drop stop := by
  constructor
  · intro found
    obtain ⟨word, spelled, rfl⟩ := spells_of_split? found
    have stands := standsAt_append spelled [] rest
    simp only [List.nil_append, List.length_nil, Nat.zero_add] at stands
    exact ⟨word.length, stands, (List.drop_left).symm⟩
  · rintro ⟨stop, stands, rfl⟩
    simpa using stands.split?_drop

end QuoteDesk.Mark
