import QuoteDesk.Proofs.Json.Parts
import QuoteDesk.Proofs.Results

/-!
# Values survive JSON

What was written is read back, whatever the style: the value itself, or with sorted names
the value with its entries in their order.  Only values that are nested too deeply are not
read, and every value of JSON is written.
-/

namespace QuoteDesk

open Number Text

/-! ## Order -/

namespace Value

/-- Entries in the order in which they are written. -/
def ordered {α : Type} (sorted : Bool) (entries : List (String × α)) : List (String × α) :=
  if sorted then entries.mergeSort (fun x y => decide (x.1 ≤ y.1)) else entries

mutual

/-- A value with all entries in the order in which they are written. -/
def arranged (sorted : Bool) : Value → Value
  | .list items => .list (arrangedItems sorted items)
  | .dict entries => .dict (ordered sorted (arrangedEntries sorted entries))
  | value => value

def arrangedItems (sorted : Bool) : List Value → List Value
  | [] => []
  | item :: rest => arranged sorted item :: arrangedItems sorted rest

def arrangedEntries (sorted : Bool) : List (String × Value) → List (String × Value)
  | [] => []
  | (name, value) :: rest => (name, arranged sorted value) :: arrangedEntries sorted rest

end

section Order

variable {α β : Type} {sorted : Bool} {entries : List (String × α)}

theorem perm_ordered (sorted : Bool) (entries : List (String × α)) :
    (ordered sorted entries).Perm entries := by
  cases sorted with
  | false => exact .refl _
  | true => exact List.mergeSort_perm _ _

theorem ordered_map (change : String × α → β) :
    ordered sorted (entries.map fun entry => (entry.1, change entry)) =
      (ordered sorted entries).map fun entry => (entry.1, change entry) := by
  cases sorted with
  | false => rfl
  | true =>
      have sortedMap := List.map_mergeSort (l := entries) (f := fun entry => (entry.1, change entry))
        (r := fun x y => decide (x.1 ≤ y.1)) (s := fun x y => decide (x.1 ≤ y.1))
        fun _ _ _ _ => rfl
      exact sortedMap.symm

theorem arrangedItems_eq (sorted : Bool) (items : List Value) :
    arrangedItems sorted items = items.map (arranged sorted) := by
  induction items with
  | nil => rfl
  | cons item rest inductionHypothesis => rw [arrangedItems, inductionHypothesis, List.map_cons]

theorem arrangedEntries_eq (sorted : Bool) (entries : Entries) :
    arrangedEntries sorted entries =
      entries.map fun entry => (entry.1, arranged sorted entry.2) := by
  induction entries with
  | nil => rfl
  | cons entry rest inductionHypothesis =>
      rw [arrangedEntries, inductionHypothesis, List.map_cons]

end Order

end Value

namespace Json

/-! ## Written values -/

/-- Written items stand between blanks and commas. -/
theorem exists_margins (style : Style) (level : Nat) :
    ∃ front gap back, IsMargin front ∧ IsMargin gap ∧ IsMargin back ∧
      ∀ opening closing items, items ≠ [] →
        (enclosed style level opening closing items).toList =
          opening.toList ++ (front ++ ((',' :: gap).intercalate (items.map String.toList) ++
            (back ++ closing.toList))) := by
  have isMargin : ∀ width level, IsMargin (newLine width level).toList := by
    intro width level c member
    rw [newLine, String.toList_ofList, List.mem_cons] at member
    exact member.symm.imp_left List.eq_of_mem_replicate
  cases known : style.indent with
  | none =>
      refine ⟨[], [' '], [], List.forall_mem_nil _, by simp [IsMargin], List.forall_mem_nil _,
        fun opening closing items nonempty => ?_⟩
      unfold enclosed
      rw [List.isEmpty_eq_false_iff.mpr nonempty, if_neg Bool.false_ne_true, known]
      simp [String.toList_intercalate]
  | some width =>
      refine ⟨_, _, _, isMargin width (level + 1), isMargin width (level + 1),
        isMargin width level, fun opening closing items nonempty => ?_⟩
      unfold enclosed
      rw [List.isEmpty_eq_false_iff.mpr nonempty, if_neg Bool.false_ne_true, known]
      simp [String.toList_intercalate]

theorem toList_enclosed_nil (style : Style) (level : Nat) (opening closing : String) :
    (enclosed style level opening closing []).toList = opening.toList ++ closing.toList :=
  String.toList_append

section Values

variable {style : Style} {level depth : Nat} {sorted : Bool}

theorem exists_writeItems_iff {items : List Value} :
    (∃ texts, writeItems style level items = .ok texts) ↔
      ∀ item ∈ items, ∃ s, writeValue style level item = .ok s := by
  induction items with
  | nil => exact iff_of_true ⟨[], by rw [writeItems]⟩ (List.forall_mem_nil _)
  | cons item rest inductionHypothesis =>
      rw [writeItems, List.forall_mem_cons, ← inductionHypothesis]
      exact exists_bind_iff fun first _ => exists_bind_pure_iff

theorem exists_writeEntries_iff {entries : Entries} :
    (∃ texts, writeEntries style level entries = .ok texts) ↔
      ∀ entry ∈ entries, ∃ s, writeValue style level entry.2 = .ok s := by
  induction entries with
  | nil => exact iff_of_true ⟨[], by rw [writeEntries]⟩ (List.forall_mem_nil _)
  | cons entry rest inductionHypothesis =>
      obtain ⟨name, value⟩ := entry
      rw [writeEntries, List.forall_mem_cons, ← inductionHypothesis]
      exact exists_bind_iff fun first _ => exists_bind_pure_iff

theorem exists_writeValue_list_iff {items : List Value} :
    (∃ s, writeValue style level (.list items) = .ok s) ↔
      ∀ item ∈ items, ∃ s, writeValue style (level + 1) item = .ok s := by
  rw [writeValue]
  exact exists_bind_pure_iff.trans exists_writeItems_iff

theorem exists_writeValue_dict_iff {entries : Entries} :
    (∃ s, writeValue style level (.dict entries) = .ok s) ↔
      ∀ entry ∈ entries, ∃ s, writeValue style (level + 1) entry.2 = .ok s := by
  rw [writeValue]
  exact exists_bind_pure_iff.trans exists_writeEntries_iff

theorem exists_parts
    {items : List Value} {texts : List String} (written : writeItems style level items = .ok texts)
    (each : ∀ item ∈ items, ∀ text, writeValue style level item = .ok text →
      Reads depth text.toList (item.arranged sorted)) :
    ∃ parts : List (List Char × Value), parts.map Prod.fst = texts.map String.toList ∧
      parts.map Prod.snd = Value.arrangedItems sorted items ∧
      ∀ part ∈ parts, Reads depth part.1 part.2 := by
  induction items generalizing texts with
  | nil =>
      cases written
      exact ⟨[], rfl, rfl, List.forall_mem_nil _⟩
  | cons item rest inductionHypothesis =>
      obtain ⟨first, others⟩ := List.forall_mem_cons.mp each
      rw [writeItems] at written
      obtain ⟨text, itemWritten, more⟩ := exists_of_bind_eq_ok written
      obtain ⟨restTexts, restWritten, told⟩ := exists_of_bind_eq_ok more
      cases told
      obtain ⟨parts, texts, values, all⟩ := inductionHypothesis restWritten others
      refine ⟨(text.toList, item.arranged sorted) :: parts, ?_, ?_, ?_⟩
      · rw [List.map_cons, texts, List.map_cons]
      · rw [List.map_cons, values, Value.arrangedItems]
      · exact List.forall_mem_cons.mpr ⟨first text itemWritten, all⟩

theorem exists_named_parts
    {entries : Entries} {texts : List (String × String)}
    (written : writeEntries style level entries = .ok texts)
    (each : ∀ entry ∈ entries, ∀ text, writeValue style level entry.2 = .ok text →
      Reads depth text.toList (entry.2.arranged sorted)) :
    ∃ parts : List (String × (String × Value)),
      parts.map (fun part => (part.1, part.2.1)) = texts ∧
      parts.map (fun part => (part.1, part.2.2)) = Value.arrangedEntries sorted entries ∧
      ∀ part ∈ parts, Reads depth part.2.1.toList part.2.2 := by
  induction entries generalizing texts with
  | nil =>
      cases written
      exact ⟨[], rfl, rfl, List.forall_mem_nil _⟩
  | cons entry rest inductionHypothesis =>
      obtain ⟨name, value⟩ := entry
      obtain ⟨first, others⟩ := List.forall_mem_cons.mp each
      rw [writeEntries] at written
      obtain ⟨text, valueWritten, more⟩ := exists_of_bind_eq_ok written
      obtain ⟨restTexts, restWritten, told⟩ := exists_of_bind_eq_ok more
      cases told
      obtain ⟨parts, texts, values, all⟩ := inductionHypothesis restWritten others
      refine ⟨(name, text, value.arranged sorted) :: parts, ?_, ?_, ?_⟩
      · rw [List.map_cons, texts]
      · rw [List.map_cons, values, Value.arrangedEntries]
      · exact List.forall_mem_cons.mpr ⟨first text valueWritten, all⟩

theorem exists_scalarStart
    {negative : Bool} {chars : List Char} {digit : Char} (first : chars.head? = some digit)
    (isDigit : isAsciiDigit digit = true) :
    ∃ c rest, (if negative then ['-'] else []) ++ chars = c :: rest ∧ Reads.StartsScalar c := by
  cases chars with
  | nil => cases first
  | cons head rest =>
      cases first
      cases negative with
      | false => exact ⟨digit, rest, rfl, Reads.startsScalar_of_digit isDigit⟩
      | true => exact ⟨'-', digit :: rest, rfl, by decide⟩

theorem noReturn_of_digits
    {digits : List Char} (allDigits : ∀ c ∈ digits, isAsciiDigit c = true) : '\r' ∉ digits :=
  fun member => absurd (allDigits _ member) (by decide)

theorem noReturn_integerText (n : Int) : '\r' ∉ (integerText n).toList := by
  have digits : '\r' ∉ Nat.toDigits 10 n.natAbs :=
    noReturn_of_digits fun c => isAsciiDigit_of_mem_toDigits
  rw [toList_integerText_signed, List.mem_append, not_or]
  by_cases negative : n < 0 <;> simp [negative, digits]

theorem noReturn_numeral (numeral : Binary64.Numeral) : '\r' ∉ numeral.chars := by
  have fraction : '\r' ∉ numeral.fractionChars := by
    have digits := noReturn_of_digits numeral.fractionDigits
    unfold Binary64.Numeral.fractionChars
    by_cases nothing : numeral.fraction = [] <;> simp [nothing, digits]
  have power : '\r' ∉ numeral.powerChars := by
    unfold Binary64.Numeral.powerChars
    cases known : numeral.power with
    | none => exact List.not_mem_nil
    | some written =>
        obtain ⟨negative, digits⟩ := written
        have powerDigits := noReturn_of_digits (numeral.powerDigits _ (Option.mem_def.mpr known)).2
        cases negative <;> simp [powerDigits]
  simp only [Binary64.Numeral.chars, List.mem_append, not_or]
  exact ⟨⟨noReturn_of_digits numeral.wholeDigits, fraction⟩, power⟩

theorem noReturn_writtenFloat (x : Binary64) : '\r' ∉ (writtenFloat x).toList := by
  cases x with
  | notANumber => decide
  | infinite negative => cases negative <;> decide
  | finite negative significand exponent fits =>
      obtain ⟨numeral, written, -⟩ := Binary64.exists_numeral_write fits
      rw [writtenFloat_finite, written, List.mem_append, not_or]
      exact ⟨by cases negative <;> decide, noReturn_numeral numeral⟩

theorem reads_integer {n : Int} (short : n.natAbs < 10 ^ digitLimit) :
    Reads depth (integerText n).toList (.int n) := by
  cases written : Nat.toDigits 10 n.natAbs with
  | nil => exact absurd written Nat.toDigits_ne_nil
  | cons digit rest =>
      have isDigit : isAsciiDigit digit = true :=
        isAsciiDigit_of_mem_toDigits (written ▸ List.mem_cons_self)
      have start : ∃ c others, (if decide (n < 0) then ['-'] else []) ++ digit :: rest =
          c :: others ∧ Reads.StartsScalar c :=
        exists_scalarStart rfl isDigit
      obtain ⟨c, others, chars, starts⟩ := start
      rw [← written, ← toList_integerText_signed] at chars
      have noReturn := noReturn_integerText n
      rw [chars] at noReturn ⊢
      refine Reads.scalar starts noReturn fun index more delimited => ?_
      rw [← chars]
      exact readScalar_integer short delimited

theorem reads_float (x : Binary64) : Reads depth (writtenFloat x).toList (.float x) := by
  have start : ∃ c rest, (writtenFloat x).toList = c :: rest ∧ Reads.StartsScalar c := by
    cases x with
    | notANumber => exact ⟨'N', _, rfl, by decide⟩
    | infinite negative =>
        cases negative with
        | false => exact ⟨'I', _, rfl, by decide⟩
        | true => exact ⟨'-', _, rfl, by decide⟩
    | finite negative significand exponent fits =>
        obtain ⟨numeral, written, -⟩ := Binary64.exists_numeral_write fits
        obtain ⟨digit, rest, chars, isDigit⟩ := numeral.exists_head
        rw [writtenFloat_finite, written]
        exact exists_scalarStart (by rw [chars]; rfl) isDigit
  obtain ⟨c, rest, written, starts⟩ := start
  have noReturn := noReturn_writtenFloat x
  rw [written] at noReturn ⊢
  refine Reads.scalar starts noReturn fun index more delimited => ?_
  rw [← written]
  exact readScalar_writtenFloat x delimited

/-- A written list is read back when its items are. -/
theorem reads_list
    {items : List Value} {texts : List String} (shallow : depth < depthLimit)
    (written : writeItems style (level + 1) items = .ok texts)
    (each : ∀ item ∈ items, ∀ text, writeValue style (level + 1) item = .ok text →
      Reads (depth + 1) text.toList (item.arranged sorted)) :
    Reads depth (enclosed style level "[" "]" texts).toList
      ((Value.list items).arranged sorted) := by
  obtain ⟨parts, partTexts, values, all⟩ := exists_parts written each
  rw [Value.arranged, ← values]
  by_cases nonempty : texts = []
  · subst nonempty
    rw [List.map_nil, List.map_eq_nil_iff] at partTexts
    subst partTexts
    rw [toList_enclosed_nil]
    exact Reads.emptyList shallow
  · obtain ⟨front, gap, back, frontMargin, gapMargin, backMargin, layout⟩ :=
      exists_margins style level
    have somePart : parts ≠ [] := by
      rintro rfl
      exact nonempty (List.map_eq_nil_iff.mp partTexts.symm)
    rw [layout "[" "]" texts nonempty, ← partTexts]
    exact Reads.list shallow all somePart frontMargin gapMargin backMargin

/-- A written mapping is read back when its values are. -/
theorem reads_dict
    {entries : Entries} {texts : List (String × String)} (shallow : depth < depthLimit)
    (names : (entries.map Prod.fst).Nodup)
    (written : writeEntries style (level + 1) entries = .ok texts)
    (each : ∀ entry ∈ entries, ∀ text, writeValue style (level + 1) entry.2 = .ok text →
      Reads (depth + 1) text.toList (entry.2.arranged style.sorted)) :
    Reads depth (enclosed style level "\x7b" "\x7d" (arranged style texts)).toList
      ((Value.dict entries).arranged style.sorted) := by
  obtain ⟨named, partTexts, values, all⟩ := exists_named_parts written each
  have order : arranged style texts = (Value.ordered style.sorted named).map fun part =>
      Json.writtenText style.onlyAscii part.1 ++ ": " ++ part.2.1 := by
    change (Value.ordered style.sorted texts).map _ = _
    rw [← partTexts, Value.ordered_map fun part : String × (String × Value) => part.2.1, List.map_map]
    rfl
  have orderedValues : Value.ordered style.sorted (Value.arrangedEntries style.sorted entries) =
      (Value.ordered style.sorted named).map fun part => (part.1, part.2.2) := by
    rw [← values, Value.ordered_map fun part : String × (String × Value) => part.2.2]
  rw [Value.arranged, orderedValues, order]
  by_cases nonempty : Value.ordered style.sorted named = []
  · rw [nonempty, List.map_nil, toList_enclosed_nil]
    exact Reads.emptyDict shallow
  · obtain ⟨front, gap, back, frontMargin, gapMargin, backMargin, layout⟩ :=
      exists_margins style level
    rw [layout _ _ _ (by simpa using nonempty), List.map_map]
    let parts : List (List Char × (String × Value)) :=
      (Value.ordered style.sorted named).map fun part =>
        ((Json.writtenText style.onlyAscii part.1 ++ ": " ++ part.2.1).toList, (part.1, part.2.2))
    have partsRead : ∀ part ∈ parts, Reads.ReadsEntry (depth + 1) style.onlyAscii part := by
      intro part member
      obtain ⟨source, fromNamed, rfl⟩ := List.mem_map.mp member
      refine ⟨source.2.1.toList, ?_, all _ ((Value.perm_ordered _ _).mem_iff.mp fromNamed)⟩
      simp
    have sameNames : (parts.map Prod.snd).map Prod.fst =
        (Value.ordered style.sorted named).map Prod.fst := by
      simp [parts]
    have partNames : ((parts.map Prod.snd).map Prod.fst).Nodup := by
      have entryNames : named.map Prod.fst = entries.map Prod.fst := by
        have both := congrArg (List.map Prod.fst) values
        rw [Value.arrangedEntries_eq, List.map_map, List.map_map] at both
        exact both
      rw [sameNames, ((Value.perm_ordered _ _).map Prod.fst).nodup_iff, entryNames]
      exact names
    have reads := Reads.dict shallow partsRead (by simpa [parts] using nonempty) partNames
      frontMargin gapMargin backMargin
    simpa [parts, Function.comp_def] using reads

/-- A written value is read back with its entries in the order in which they were written. -/
theorem reads_of_writeValue
    {value : Value} {room : Nat} {text : String} (json : value.IsJson)
    (nests : value.NestsWithin room) (fits : depth + room ≤ depthLimit)
    (written : writeValue style level value = .ok text) :
    Reads depth text.toList (value.arranged style.sorted) := by
  induction json generalizing room level depth text with
  | null =>
      cases written
      exact Reads.scalar (by decide) (by decide) fun index more _ => ⟨index + 4, rfl⟩
  | bool b =>
      cases written
      cases b with
      | false => exact Reads.scalar (by decide) (by decide) fun index more _ => ⟨index + 5, rfl⟩
      | true => exact Reads.scalar (by decide) (by decide) fun index more _ => ⟨index + 4, rfl⟩
  | @int n short =>
      have notLong : ¬ digitLimit < decimalLength n.natAbs :=
        Nat.not_lt.mpr ((decimalLength_le_iff (by decide)).mpr short)
      rw [writeValue, writeInteger, if_neg notLong] at written
      cases written
      exact reads_integer short
  | float x =>
      cases written
      exact reads_float x
  | text s =>
      cases written
      exact Reads.writtenText style.onlyAscii s
  | @list items _ inductionHypothesis =>
      cases nests with
      | flat noList _ => exact absurd rfl (noList items)
      | @list inner _ all =>
          rw [writeValue] at written
          obtain ⟨texts, itemsWritten, told⟩ := exists_of_bind_eq_ok written
          cases told
          exact reads_list (by omega) itemsWritten fun item member text itemWritten =>
            inductionHypothesis item member (all item member) (by omega) itemWritten
  | @dict entries names _ inductionHypothesis =>
      cases nests with
      | flat _ noDict => exact absurd rfl (noDict entries)
      | @dict inner _ all =>
          rw [writeValue] at written
          obtain ⟨texts, entriesWritten, told⟩ := exists_of_bind_eq_ok written
          cases told
          exact reads_dict (by omega) names entriesWritten fun entry member text valueWritten =>
            inductionHypothesis entry member (all entry member) (by omega) valueWritten

end Values

/-- Every value of JSON is written. -/
theorem exists_writeValue {value : Value} (json : value.IsJson) (style : Style) (level : Nat) :
    ∃ text, writeValue style level value = .ok text := by
  induction json generalizing level with
  | null => exact ⟨_, by rw [writeValue]⟩
  | bool b => exact ⟨_, by rw [writeValue]⟩
  | @int n short =>
      have notLong : ¬ digitLimit < decimalLength n.natAbs :=
        Nat.not_lt.mpr ((decimalLength_le_iff (by decide)).mpr short)
      exact ⟨_, by rw [writeValue, writeInteger, if_neg notLong]; rfl⟩
  | float x => exact ⟨_, by rw [writeValue]⟩
  | text s => exact ⟨_, by rw [writeValue]⟩
  | list _ inductionHypothesis =>
      exact exists_writeValue_list_iff.mpr fun item member => inductionHypothesis item member _
  | dict _ _ inductionHypothesis =>
      exact exists_writeValue_dict_iff.mpr fun entry member => inductionHypothesis entry member _

/-- A value of JSON is written as a text of lines, and the text is read as the value with
its entries in the order in which they were written. -/
theorem exists_write
    {value : Value} (json : value.IsJson) (nests : value.NestsWithin depthLimit) (style : Style) :
    ∃ text, write style value = .ok text ∧ '\r' ∉ text.toList ∧
      read text = .ok (value.arranged style.sorted) := by
  obtain ⟨text, written⟩ := exists_writeValue json style 0
  have reads : Reads 0 text.toList (value.arranged style.sorted) :=
    reads_of_writeValue json nests (Nat.le_of_eq (Nat.zero_add _)) written
  have noMark : text.toList.head? ≠ some '\uFEFF' := fun marked =>
    (reads.start _ marked).2.2 rfl
  have skipped : Cursor.skipSpace ⟨0, text.toList⟩ = ⟨0, text.toList⟩ :=
    skipSpace_append (List.forall_mem_nil _) reads.visible
  have enough : text.toList.length ≤ 2 * text.toList.length + 2 := by omega
  have ended : Delimited [] := by rintro _ ⟨⟩
  obtain ⟨after, given⟩ := reads.read 0 enough ended
  rw [List.append_nil] at given
  refine ⟨text, written, reads.noReturn, ?_⟩
  unfold read readWhole
  rw [if_neg noMark, skipped, given]
  rfl

end Json

end QuoteDesk
