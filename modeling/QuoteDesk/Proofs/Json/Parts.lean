import QuoteDesk.Proofs.Json.Scalars

/-!
# Texts in which a value is read

A value is read from its text whatever follows it.  For lists and mappings this goes part
by part: a part is read, and then the brackets are closed or a comma leads to the next part.
-/

namespace QuoteDesk.Json

open Number Text

/-! ## Reading on -/

theorem skipSpace_append
    {index : Nat} {blanks more : List Char} (allBlank : ∀ c ∈ blanks, isSpace c = true)
    (ends : ∀ c ∈ more.head?, isSpace c = false) :
    Cursor.skipSpace ⟨index, blanks ++ more⟩ = ⟨index + blanks.length, more⟩ := by
  have taken : (blanks ++ more).takeWhile isSpace = blanks := by
    rw [List.takeWhile_append_of_pos allBlank]
    cases more with
    | nil => simp
    | cons c rest => simp [ends c rfl]
  rw [Cursor.skipSpace, taken, Cursor.skip, List.drop_left]

theorem skipSpace_cons
    {index : Nat} {c : Char} (visible : isSpace c = false) (rest : List Char) :
    Cursor.skipSpace ⟨index, c :: rest⟩ = ⟨index, c :: rest⟩ := by
  simp [Cursor.skipSpace, Cursor.skip, visible]

section Steps

variable {depth index : Nat} {rest more : List Char} {item : Value} {cursor next : Cursor}

theorem readValue_quote (fuel : Nat) :
    readValue (fuel + 1) depth ⟨index, '"' :: rest⟩ =
      (readText index (index + 1) 0 [] rest).map fun found => (.text found.1, found.2) := by
  rw [readValue]
  cases found : readText index (index + 1) 0 [] rest <;>
    simp [found, bind, Except.bind, pure, Except.pure, Except.map]

theorem readValue_bracket (fuel : Nat) (shallow : depth < depthLimit) :
    readValue (fuel + 1) depth ⟨index, '[' :: rest⟩ =
      if (Cursor.skipSpace ⟨index + 1, rest⟩).rest.head? = some ']' then
        .ok (.list [], (Cursor.skipSpace ⟨index + 1, rest⟩).skip 1)
      else (readItems fuel (depth + 1) [] (Cursor.skipSpace ⟨index + 1, rest⟩)).map
        fun found => (.list found.1, found.2) := by
  have notDeep : ¬ depthLimit ≤ depth := Nat.not_le.mpr shallow
  have inside : Cursor.skip ⟨index, '[' :: rest⟩ 1 = ⟨index + 1, rest⟩ := rfl
  rw [readValue]
  simp only [notDeep, if_false, inside]
  cases readItems fuel (depth + 1) [] (Cursor.skipSpace ⟨index + 1, rest⟩) <;> rfl

theorem readValue_brace (fuel : Nat) (shallow : depth < depthLimit) :
    readValue (fuel + 1) depth ⟨index, '\x7b' :: rest⟩ =
      if (Cursor.skipSpace ⟨index + 1, rest⟩).rest.head? = some '\x7d' then
        .ok (.dict [], (Cursor.skipSpace ⟨index + 1, rest⟩).skip 1)
      else (readEntries fuel (depth + 1) [] (Cursor.skipSpace ⟨index + 1, rest⟩)).map
        fun found => (.dict found.1, found.2) := by
  have notDeep : ¬ depthLimit ≤ depth := Nat.not_le.mpr shallow
  have inside : Cursor.skip ⟨index, '\x7b' :: rest⟩ 1 = ⟨index + 1, rest⟩ := rfl
  rw [readValue]
  simp only [notDeep, if_false, inside]
  cases readEntries fuel (depth + 1) [] (Cursor.skipSpace ⟨index + 1, rest⟩) <;> rfl

theorem readItems_last
    {fuel : Nat} {before : List Value} (read : readValue fuel depth cursor = .ok (item, next))
    (ends : next.skipSpace = ⟨index, ']' :: more⟩) :
    readItems (fuel + 1) depth before cursor =
      .ok ((item :: before).reverse, ⟨index + 1, more⟩) := by
  rw [readItems, read]
  simp only [bind, Except.bind, ends]
  rfl

theorem readItems_next
    {fuel : Nat} {before : List Value} (read : readValue fuel depth cursor = .ok (item, next))
    (goesOn : next.skipSpace = ⟨index, ',' :: more⟩) :
    readItems (fuel + 1) depth before cursor =
      readItems fuel depth (item :: before) (Cursor.skipSpace ⟨index + 1, more⟩) := by
  rw [readItems, read]
  simp only [bind, Except.bind, goesOn]
  rfl

section Entries

variable {name : String} {chars : List Char} {start behind after : Nat} {fuel : Nat}
  {before : Entries}

/-- An entry whose name and value can be read ends a mapping or goes on with it. -/
theorem readEntries_entry
    (named : readText start (start + 1) 0 [] rest = .ok (name, ⟨behind, ':' :: ' ' :: chars⟩))
    (visible : ∀ c ∈ chars.head?, isSpace c = false)
    (read : readValue fuel depth ⟨behind + 2, chars⟩ = .ok (item, next)) :
    readEntries (fuel + 1) depth before ⟨start, '"' :: rest⟩ =
      match next.skipSpace.rest with
      | '\x7d' :: _ => .ok (before.put name item, next.skipSpace.skip 1)
      | ',' :: _ => readEntries fuel depth (before.put name item) (next.skipSpace.skip 1).skipSpace
      | _ => .error (.problem .commaExpected next.skipSpace.index) := by
  have colon : Cursor.skipSpace ⟨behind, ':' :: ' ' :: chars⟩ = ⟨behind, ':' :: ' ' :: chars⟩ :=
    skipSpace_cons rfl _
  have blank : Cursor.skipSpace ⟨behind + 1, ' ' :: chars⟩ = ⟨behind + 2, chars⟩ :=
    skipSpace_append (List.forall_mem_singleton.mpr rfl) visible
  have inside : Cursor.skip ⟨behind, ':' :: ' ' :: chars⟩ 1 = ⟨behind + 1, ' ' :: chars⟩ := rfl
  have marked : (':' :: ' ' :: chars).head? = some ':' := rfl
  rw [readEntries]
  simp only [named, bind, Except.bind, colon, marked, if_true, inside, blank, read]
  rfl

end Entries

end Steps

/-! ## Parts between brackets -/

theorem delimited_append
    {back more : List Char} (allBlank : ∀ c ∈ back, isSpace c = true)
    (delimited : Delimited more) : Delimited (back ++ more) := by
  cases back with
  | nil => exact delimited
  | cons c rest => rintro _ ⟨⟩; exact .inl (allBlank c List.mem_cons_self)

theorem head?_intercalate_append
    {π : Type} {part : List Char × π} (some : part.1 ≠ []) (gap more : List Char)
    (others : List (List Char × π)) :
    ((',' :: gap).intercalate ((part :: others).map Prod.fst) ++ more).head? = part.1.head? := by
  obtain ⟨rest, split⟩ :
      ∃ rest, (',' :: gap).intercalate ((part :: others).map Prod.fst) = part.1 ++ rest := by
    cases others with
    | nil => exact ⟨[], by simp⟩
    | cons second later =>
        exact ⟨_, by rw [List.map_cons, List.map_cons, List.intercalate_cons_cons, List.append_assoc]⟩
  rw [split, List.append_assoc, List.head?_append_of_ne_nil _ some]

/-- What may stand between written parts. -/
def IsMargin (chars : List Char) : Prop :=
  ∀ c ∈ chars, c = ' ' ∨ c = '\n'

theorem IsMargin.isSpace {chars : List Char} (margin : IsMargin chars) :
    ∀ c ∈ chars, isSpace c = true := by
  intro c member
  rcases margin c member with rfl | rfl <;> rfl

theorem IsMargin.noReturn {chars : List Char} (margin : IsMargin chars) : '\r' ∉ chars := by
  intro member
  rcases margin _ member with same | same <;> exact absurd same (by decide)

/-- A reader takes each of several parts, and then ends at a closing bracket or goes on behind
a comma. -/
structure TakesParts
    {σ τ π : Type} (run : Nat → σ → Cursor → Except Refusal (τ × Cursor)) (add : σ → π → σ)
    (finish : σ → τ) (closing : Char) (gap back : List Char) (parts : List (List Char × π)) :
    Prop where
  nonempty : ∀ part ∈ parts, part.1 ≠ []
  start : ∀ part ∈ parts, ∀ c ∈ part.1.head?, isSpace c = false ∧ c ≠ closing
  last : ∀ part ∈ parts, ∀ fuel index before more, part.1.length ≤ fuel →
    ∃ after, run (fuel + 1) before ⟨index, part.1 ++ (back ++ closing :: more)⟩ =
      .ok (finish (add before part.2), ⟨after, more⟩)
  next : ∀ part ∈ parts, ∀ fuel index before more, part.1.length ≤ fuel →
    (∀ c ∈ more.head?, isSpace c = false) →
    ∃ after, run (fuel + 1) before ⟨index, part.1 ++ ',' :: (gap ++ more)⟩ =
      run fuel (add before part.2) ⟨after, more⟩

section Parts

variable {σ τ π : Type} {run : Nat → σ → Cursor → Except Refusal (τ × Cursor)}
  {add : σ → π → σ} {finish : σ → τ} {closing : Char} {gap back : List Char}
  {parts : List (List Char × π)}

theorem TakesParts.head
    (takes : TakesParts run add finish closing gap back parts) (some : parts ≠ [])
    (more : List Char) :
    ∀ c ∈ ((',' :: gap).intercalate (parts.map Prod.fst) ++ more).head?,
      isSpace c = false ∧ c ≠ closing := by
  obtain ⟨first, others, rfl⟩ := List.exists_cons_of_ne_nil some
  rw [head?_intercalate_append (takes.nonempty first List.mem_cons_self)]
  exact takes.start first List.mem_cons_self

theorem TakesParts.tail
    {part : List Char × π} (takes : TakesParts run add finish closing gap back (part :: parts)) :
    TakesParts run add finish closing gap back parts where
  nonempty other member := takes.nonempty other (List.mem_cons_of_mem _ member)
  start other member := takes.start other (List.mem_cons_of_mem _ member)
  last other member := takes.last other (List.mem_cons_of_mem _ member)
  next other member := takes.next other (List.mem_cons_of_mem _ member)

/-- Parts are read one after the other. -/
theorem TakesParts.read
    (takes : TakesParts run add finish closing gap back parts) (some : parts ≠ [])
    (fuel index : Nat) (before : σ) (more : List Char)
    (enough : ((',' :: gap).intercalate (parts.map Prod.fst)).length < fuel) :
    ∃ after, run fuel before
        ⟨index, (',' :: gap).intercalate (parts.map Prod.fst) ++ (back ++ closing :: more)⟩ =
      .ok (finish ((parts.map Prod.snd).foldl add before), ⟨after, more⟩) := by
  induction parts generalizing fuel index before with
  | nil => exact absurd rfl some
  | cons part rest inductionHypothesis =>
      obtain ⟨fuel, rfl⟩ : ∃ less, fuel = less + 1 := ⟨fuel - 1, by omega⟩
      cases rest with
      | nil =>
          rw [List.map_singleton, List.intercalate_singleton] at enough ⊢
          exact takes.last part List.mem_cons_self fuel index before more
            (Nat.le_of_lt_succ enough)
      | cons second others =>
          let joined := (',' :: gap).intercalate ((second :: others).map Prod.fst)
          have split : (',' :: gap).intercalate ((part :: second :: others).map Prod.fst) =
              part.1 ++ ',' :: (gap ++ joined) := by
            rw [List.map_cons, List.map_cons, List.intercalate_cons_cons, List.append_assoc]
            rfl
          have restVisible : ∀ c ∈ (joined ++ (back ++ closing :: more)).head?,
              isSpace c = false := fun c first =>
            (takes.tail.head (List.cons_ne_nil _ _) _ c first).1
          have firstEnough : part.1.length ≤ fuel := by
            rw [split, List.length_append] at enough
            omega
          have restEnough : joined.length < fuel := by
            rw [split, List.length_append, List.length_cons, List.length_append] at enough
            omega
          obtain ⟨after, stepped⟩ :=
            takes.next part List.mem_cons_self fuel index before _ firstEnough restVisible
          obtain ⟨afterAll, read⟩ := inductionHypothesis takes.tail (List.cons_ne_nil _ _) fuel
            after (add before part.2) restEnough
          refine ⟨afterAll, ?_⟩
          rw [split, List.append_assoc, List.cons_append, List.append_assoc, stepped]
          exact read

/-- What stands between brackets is read when the opening one leads to the reader of parts. -/
theorem TakesParts.between
    {opening : Char} {front : List Char} {depth : Nat} {start : σ} {empty : Value}
    {wrap : τ → Value} (takes : TakesParts run add finish closing gap back parts)
    (some : parts ≠ []) (frontMargin : IsMargin front)
    (opens : ∀ fuel index rest, readValue (fuel + 1) depth ⟨index, opening :: rest⟩ =
      if (Cursor.skipSpace ⟨index + 1, rest⟩).rest.head? = .some closing then
        .ok (empty, (Cursor.skipSpace ⟨index + 1, rest⟩).skip 1)
      else (run fuel start (Cursor.skipSpace ⟨index + 1, rest⟩)).map
        fun found => (wrap found.1, found.2))
    {fuel : Nat} (index : Nat) (more : List Char)
    (enough : (opening :: (front ++ ((',' :: gap).intercalate (parts.map Prod.fst) ++
      (back ++ [closing])))).length ≤ fuel) :
    ∃ after, readValue fuel depth ⟨index, opening :: (front ++
        ((',' :: gap).intercalate (parts.map Prod.fst) ++ (back ++ [closing]))) ++ more⟩ =
      .ok (wrap (finish ((parts.map Prod.snd).foldl add start)), ⟨after, more⟩) := by
  simp only [List.length_cons, List.length_append] at enough
  obtain ⟨fuel, rfl⟩ : ∃ less, fuel = less + 1 := ⟨fuel - 1, by omega⟩
  have innerEnough : ((',' :: gap).intercalate (parts.map Prod.fst)).length < fuel := by omega
  have head := takes.head some (back ++ closing :: more)
  obtain ⟨after, read⟩ :=
    takes.read some fuel (index + 1 + front.length) start more innerEnough
  have notClosed : ((',' :: gap).intercalate (parts.map Prod.fst) ++
      (back ++ closing :: more)).head? ≠ .some closing :=
    fun closed => (head closing closed).2 rfl
  refine ⟨after, ?_⟩
  have regrouped : opening :: (front ++ ((',' :: gap).intercalate (parts.map Prod.fst) ++
      (back ++ [closing]))) ++ more = opening :: (front ++ ((',' :: gap).intercalate
        (parts.map Prod.fst) ++ (back ++ closing :: more))) := by simp
  rw [regrouped, opens, skipSpace_append frontMargin.isSpace fun c first => (head c first).1]
  dsimp only
  rw [if_neg notClosed, read]
  rfl

end Parts

/-! ## Texts of values -/

/-- A text in which a value is read inside a number of brackets, whatever follows it.  It has
no carriage return, so that it is the same as a text of lines. -/
structure Reads (depth : Nat) (text : List Char) (value : Value) : Prop where
  nonempty : text ≠ []
  start : ∀ c ∈ text.head?, isSpace c = false ∧ c ≠ ']' ∧ c ≠ '\uFEFF'
  noReturn : '\r' ∉ text
  read : ∀ {fuel} index {more}, text.length ≤ fuel → Delimited more →
    ∃ after, readValue fuel depth ⟨index, text ++ more⟩ = .ok (value, ⟨after, more⟩)

namespace Reads

variable {depth : Nat} {text : List Char} {value : Value}

theorem visible (reads : Reads depth text value) : ∀ c ∈ text.head?, isSpace c = false :=
  fun c first => (reads.start c first).1

/-- What a word or a number starts with. -/
def StartsScalar (c : Char) : Prop :=
  (isSpace c = false ∧ c ≠ ']' ∧ c ≠ '\uFEFF') ∧ c ≠ '"' ∧ c ≠ '\x7b' ∧ c ≠ '['

instance (c : Char) : Decidable (StartsScalar c) :=
  inferInstanceAs (Decidable (_ ∧ _))

theorem startsScalar_of_digit {c : Char} (digit : isAsciiDigit c = true) : StartsScalar c := by
  have different : ∀ other, isAsciiDigit other = false → c ≠ other := by
    rintro _ noDigit rfl
    cases digit.symm.trans noDigit
  have visible : isSpace c = false := by
    simp [isSpace, different ' ' rfl, different '\t' rfl, different '\n' rfl, different '\r' rfl]
  exact ⟨⟨visible, different _ rfl, different _ rfl⟩, different _ rfl, different _ rfl,
    different _ rfl⟩

theorem scalar
    {c : Char} {rest : List Char} (start : StartsScalar c) (noReturn : '\r' ∉ c :: rest)
    (read : ∀ index {more}, Delimited more →
      ∃ after, readScalar ⟨index, c :: rest ++ more⟩ = .ok (value, ⟨after, more⟩)) :
    Reads depth (c :: rest) value := by
  obtain ⟨isStart, noQuote, noBrace, noBracket⟩ := start
  refine ⟨List.cons_ne_nil _ _, by rintro _ ⟨⟩; exact isStart, noReturn, ?_⟩
  intro fuel index more enough delimited
  obtain ⟨fuel, rfl⟩ : ∃ less, fuel = less + 1 := ⟨fuel - 1, by simp at enough; omega⟩
  obtain ⟨after, given⟩ := read index delimited
  refine ⟨after, Eq.trans ?_ given⟩
  rw [readValue]
  simp [noQuote, noBrace, noBracket]

theorem writtenText (onlyAscii : Bool) (s : String) :
    Reads depth (Json.writtenText onlyAscii s).toList (.text s) := by
  have noReturn := noReturn_writtenText onlyAscii s
  rw [toList_writtenText] at noReturn ⊢
  refine ⟨List.cons_ne_nil _ _, by rintro _ ⟨⟩; decide, noReturn, ?_⟩
  intro fuel index more enough delimited
  obtain ⟨fuel, rfl⟩ : ∃ less, fuel = less + 1 := ⟨fuel - 1, by simp at enough; omega⟩
  obtain ⟨after, read⟩ := readText_written index (index + 1) more onlyAscii s.toList []
  refine ⟨after, ?_⟩
  rw [List.cons_append, List.append_assoc, List.singleton_append, readValue_quote, read,
    List.reverse_nil, List.nil_append, String.ofList_toList]
  rfl

/-! ## Lists and mappings -/

theorem emptyList (shallow : depth < depthLimit) : Reads depth ['[', ']'] (.list []) := by
  refine ⟨List.cons_ne_nil _ _, by rintro _ ⟨⟩; decide, by decide, ?_⟩
  intro fuel index more enough delimited
  obtain ⟨fuel, rfl⟩ : ∃ less, fuel = less + 1 := ⟨fuel - 1, by simp at enough; omega⟩
  refine ⟨index + 2, ?_⟩
  rw [List.cons_append, readValue_bracket fuel shallow]
  rfl

theorem emptyDict (shallow : depth < depthLimit) : Reads depth ['\x7b', '\x7d'] (.dict []) := by
  refine ⟨List.cons_ne_nil _ _, by rintro _ ⟨⟩; decide, by decide, ?_⟩
  intro fuel index more enough delimited
  obtain ⟨fuel, rfl⟩ : ∃ less, fuel = less + 1 := ⟨fuel - 1, by simp at enough; omega⟩
  refine ⟨index + 2, ?_⟩
  rw [List.cons_append, readValue_brace fuel shallow]
  rfl

section Brackets

variable {front gap back : List Char}

theorem noReturn_between
    {π : Type} {opening closing : Char} {parts : List (List Char × π)}
    (opens : opening ≠ '\r') (closes : closing ≠ '\r') (frontMargin : IsMargin front)
    (gapMargin : IsMargin gap) (backMargin : IsMargin back)
    (all : ∀ part ∈ parts, '\r' ∉ part.1) :
    '\r' ∉ opening :: (front ++ ((',' :: gap).intercalate (parts.map Prod.fst) ++
      (back ++ [closing]))) := by
  have joined : '\r' ∉ (',' :: gap).intercalate (parts.map Prod.fst) := by
    induction parts with
    | nil => exact List.not_mem_nil
    | cons part rest inductionHypothesis =>
        obtain ⟨first, others⟩ := List.forall_mem_cons.mp all
        cases rest with
        | nil => simpa using first
        | cons second later =>
            have restJoined := inductionHypothesis others
            rw [List.map_cons] at restJoined
            rw [List.map_cons, List.map_cons, List.intercalate_cons_cons]
            simp only [List.mem_append, List.mem_cons, not_or]
            exact ⟨⟨first, by decide, gapMargin.noReturn⟩, restJoined⟩
  simp only [List.mem_cons, List.mem_append, List.not_mem_nil, or_false, not_or]
  exact ⟨opens.symm, frontMargin.noReturn, joined, backMargin.noReturn, closes.symm⟩

theorem list
    {parts : List (List Char × Value)} (shallow : depth < depthLimit)
    (all : ∀ part ∈ parts, Reads (depth + 1) part.1 part.2) (nonempty : parts ≠ [])
    (frontMargin : IsMargin front) (gapMargin : IsMargin gap) (backMargin : IsMargin back) :
    Reads depth
      ('[' :: (front ++ ((',' :: gap).intercalate (parts.map Prod.fst) ++ (back ++ [']']))))
      (.list (parts.map Prod.snd)) := by
  have takes : TakesParts (fun fuel => readItems fuel (depth + 1))
      (fun before item => item :: before) List.reverse ']' gap back parts := by
    refine ⟨fun part member => (all part member).nonempty, fun part member c first =>
      ⟨(all part member).visible c first, ((all part member).start c first).2.1⟩, ?_, ?_⟩
    · intro part member fuel index before more enough
      have bracket : Delimited (']' :: more) := by
        rintro _ ⟨⟩
        exact .inr (.inr (.inl rfl))
      have closing : ∀ c ∈ (']' :: more).head?, isSpace c = false := by
        rintro _ ⟨⟩
        rfl
      obtain ⟨after, read⟩ :=
        (all part member).read index enough (delimited_append backMargin.isSpace bracket)
      exact ⟨after + back.length + 1,
        readItems_last read (skipSpace_append backMargin.isSpace closing)⟩
    · intro part member fuel index before more enough restVisible
      have comma : Delimited (',' :: (gap ++ more)) := by
        rintro _ ⟨⟩
        exact .inr (.inl rfl)
      obtain ⟨after, read⟩ := (all part member).read index enough comma
      refine ⟨after + 1 + gap.length, ?_⟩
      rw [readItems_next read (skipSpace_cons rfl _),
        skipSpace_append gapMargin.isSpace restVisible]
  have noReturn : '\r' ∉ '[' :: (front ++ ((',' :: gap).intercalate (parts.map Prod.fst) ++
      (back ++ [']']))) :=
    noReturn_between (by decide) (by decide) frontMargin gapMargin backMargin
      fun part member => (all part member).noReturn
  refine ⟨List.cons_ne_nil _ _, by rintro _ ⟨⟩; decide, noReturn, ?_⟩
  intro fuel index more enough delimited
  obtain ⟨after, read⟩ := takes.between nonempty frontMargin
    (fun fuel _ _ => readValue_bracket fuel shallow) index more enough
  refine ⟨after, read.trans ?_⟩
  simp

/-- The text of an entry: its name, a colon and a text in which its value is read. -/
def ReadsEntry (depth : Nat) (onlyAscii : Bool) (part : List Char × (String × Value)) : Prop :=
  ∃ text, part.1 = (Json.writtenText onlyAscii part.2.1).toList ++ ':' :: ' ' :: text ∧
    Reads depth text part.2.2

variable {onlyAscii : Bool}

theorem ReadsEntry.start
    {part : List Char × (String × Value)} (reads : ReadsEntry depth onlyAscii part) :
    ∃ rest, part.1 = '"' :: rest := by
  obtain ⟨text, written, -⟩ := reads
  rw [written, toList_writtenText]
  exact ⟨_, rfl⟩

theorem ReadsEntry.noReturn
    {part : List Char × (String × Value)} (reads : ReadsEntry depth onlyAscii part) :
    '\r' ∉ part.1 := by
  obtain ⟨text, written, valueReads⟩ := reads
  rw [written]
  simp only [List.mem_append, List.mem_cons, not_or]
  exact ⟨noReturn_writtenText onlyAscii part.2.1, by decide, by decide, valueReads.noReturn⟩

theorem ReadsEntry.read
    {part : List Char × (String × Value)} (reads : ReadsEntry depth onlyAscii part)
    {fuel : Nat} (index : Nat) (before : Entries) {more : List Char}
    (enough : part.1.length ≤ fuel) (delimited : Delimited more) :
    ∃ after, readEntries (fuel + 1) depth before ⟨index, part.1 ++ more⟩ =
      match (Cursor.skipSpace ⟨after, more⟩).rest with
      | '\x7d' :: _ =>
        .ok (before.put part.2.1 part.2.2, (Cursor.skipSpace ⟨after, more⟩).skip 1)
      | ',' :: _ => readEntries fuel depth (before.put part.2.1 part.2.2)
          ((Cursor.skipSpace ⟨after, more⟩).skip 1).skipSpace
      | _ => .error (.problem .commaExpected (Cursor.skipSpace ⟨after, more⟩).index) := by
  obtain ⟨text, written, valueReads⟩ := reads
  obtain ⟨behind, named⟩ := readText_written index (index + 1) (':' :: ' ' :: (text ++ more))
    onlyAscii part.2.1.toList []
  rw [List.reverse_nil, List.nil_append, String.ofList_toList] at named
  have textEnough : text.length ≤ fuel := by
    rw [written, List.length_append, List.length_cons, List.length_cons] at enough
    omega
  obtain ⟨after, read⟩ := valueReads.read (behind + 2) textEnough delimited
  have visible : ∀ c ∈ (text ++ more).head?, isSpace c = false := by
    rw [List.head?_append_of_ne_nil _ valueReads.nonempty]
    exact valueReads.visible
  refine ⟨after, ?_⟩
  have split : part.1 ++ more = '"' :: (part.2.1.toList.flatMap (writtenChar onlyAscii) ++
      '"' :: ':' :: ' ' :: (text ++ more)) := by
    rw [written, toList_writtenText]
    simp
  rw [split, readEntries_entry named visible read]

theorem dict
    {parts : List (List Char × (String × Value))} (shallow : depth < depthLimit)
    (all : ∀ part ∈ parts, ReadsEntry (depth + 1) onlyAscii part) (nonempty : parts ≠ [])
    (names : ((parts.map Prod.snd).map Prod.fst).Nodup) (frontMargin : IsMargin front)
    (gapMargin : IsMargin gap) (backMargin : IsMargin back) :
    Reads depth
      ('\x7b' :: (front ++ ((',' :: gap).intercalate (parts.map Prod.fst) ++ (back ++ ['\x7d']))))
      (.dict (parts.map Prod.snd)) := by
  have takes : TakesParts (fun fuel => readEntries fuel (depth + 1))
      (fun before entry => before.put entry.1 entry.2) id '\x7d' gap back parts := by
    refine ⟨?_, ?_, ?_, ?_⟩
    · intro part member
      obtain ⟨rest, written⟩ := (all part member).start
      rw [written]
      exact List.cons_ne_nil _ _
    · intro part member
      obtain ⟨rest, written⟩ := (all part member).start
      rw [written]
      rintro _ ⟨⟩
      decide
    · intro part member fuel index before more enough
      have brace : Delimited ('\x7d' :: more) := by
        rintro _ ⟨⟩
        exact .inr (.inr (.inr rfl))
      have closing : ∀ c ∈ ('\x7d' :: more).head?, isSpace c = false := by
        rintro _ ⟨⟩
        rfl
      obtain ⟨after, read⟩ := (all part member).read index before enough
        (delimited_append backMargin.isSpace brace)
      refine ⟨after + back.length + 1, read.trans ?_⟩
      rw [skipSpace_append backMargin.isSpace closing]
      rfl
    · intro part member fuel index before more enough restVisible
      have comma : Delimited (',' :: (gap ++ more)) := by
        rintro _ ⟨⟩
        exact .inr (.inl rfl)
      obtain ⟨after, read⟩ := (all part member).read index before enough comma
      refine ⟨after + 1 + gap.length, read.trans ?_⟩
      rw [skipSpace_cons rfl]
      exact congrArg _ (skipSpace_append gapMargin.isSpace restVisible)
  have noReturn : '\r' ∉ '\x7b' :: (front ++ ((',' :: gap).intercalate (parts.map Prod.fst) ++
      (back ++ ['\x7d']))) :=
    noReturn_between (by decide) (by decide) frontMargin gapMargin backMargin
      fun part member => (all part member).noReturn
  have put : Entries.putAll [] (parts.map Prod.snd) = parts.map Prod.snd :=
    Entries.putAll_of_nodup (by rwa [List.nil_append])
  refine ⟨List.cons_ne_nil _ _, by rintro _ ⟨⟩; decide, noReturn, ?_⟩
  intro fuel index more enough delimited
  obtain ⟨after, read⟩ := takes.between nonempty frontMargin
    (fun fuel _ _ => readValue_brace fuel shallow) index more enough
  refine ⟨after, read.trans ?_⟩
  change Except.ok (Value.dict (Entries.putAll [] _), _) = _
  rw [put]

end Brackets

end Reads

/-! ## Numbers that are too long -/

/-- A text that is a number of too many digits is given up. -/
theorem read_of_tooManyDigits
    {digits : List Char} (allDigits : ∀ c ∈ digits, isAsciiDigit c = true)
    (notZero : digits.head? ≠ some '0') (long : digitLimit < digits.length) :
    read (String.ofList digits) = .error (.number (.tooManyDigits digits.length)) := by
  obtain ⟨c, rest, written⟩ : ∃ c rest, digits = c :: rest :=
    List.exists_cons_of_length_pos (Nat.zero_lt_of_lt long)
  have digit : isAsciiDigit c = true := allDigits c (written ▸ List.mem_cons_self)
  obtain ⟨⟨visible, -, noMark⟩, noQuote, noBrace, noBracket⟩ := Reads.startsScalar_of_digit digit
  have number : readNumber ⟨0, digits⟩ = .error (.number (.tooManyDigits digits.length)) := by
    have wholeRead : wholeDigits (digits ++ ([] ++ ([] ++ []))) = digits :=
      wholeDigits_append allDigits (.inr ⟨written ▸ List.cons_ne_nil c rest, notZero⟩) nofun
    obtain ⟨after, refused⟩ :=
      readNumber_parts 0 false ⟨c, written ▸ rfl, digit⟩ wholeRead rfl rfl
    rw [List.isEmpty_nil, Bool.and_self, if_pos rfl, if_pos long] at refused
    simpa using refused
  have value : ∀ fuel, readValue (fuel + 1) 0 ⟨0, digits⟩ =
      .error (.number (.tooManyDigits digits.length)) := by
    intro fuel
    have first : digits.head? = some c := by rw [written]; rfl
    have scalar : readScalar ⟨0, digits⟩ = readNumber ⟨0, digits⟩ :=
      readScalar_of_digit false first digit
    rw [← number, ← scalar, written, readValue]
    simp [noQuote, noBrace, noBracket]
  have start : Cursor.skipSpace ⟨0, digits⟩ = ⟨0, digits⟩ := by
    rw [written]
    exact skipSpace_cons visible rest
  have unmarked : digits.head? ≠ some '\uFEFF' := by
    rw [written]
    rintro ⟨⟩
    exact noMark rfl
  rw [read, readWhole, String.toList_ofList, if_neg unmarked, start, value]
  rfl

end QuoteDesk.Json
