import Mathlib.Data.List.TakeWhile
import QuoteDesk.Json.Reader
import QuoteDesk.Proofs.Json.Values

/-!
# What is read can be written

No whole number with more digits than can be written comes out of a JSON text, and
nothing comes out of it that has no form in JSON.  So every value that is read can be
written and has a shown form.  It is nested no deeper than the brackets of a text may be.
-/

namespace QuoteDesk.Json

open Number Text

/-! ## Numbers -/

theorem isAsciiDigit_of_mem_wholeDigits {chars : List Char} :
    ∀ c ∈ wholeDigits chars, isAsciiDigit c = true := by
  unfold wholeDigits
  split
  · rw [List.forall_mem_singleton]
    rfl
  · intro c member
    exact List.mem_takeWhile_imp member

theorem natAbs_signedValue (negative : Bool) (digits : List Char) :
    (signedValue negative digits).natAbs = decimalValue digits := by
  cases negative with
  | false => exact Int.natAbs_natCast _
  | true => exact (Int.natAbs_neg _).trans (Int.natAbs_natCast _)

theorem isJson_signedValue
    {digits : List Char} (allDigits : ∀ c ∈ digits, isAsciiDigit c = true)
    (short : digits.length ≤ digitLimit) (negative : Bool) :
    (Value.int (signedValue negative digits)).IsJson := by
  apply Value.IsJson.int
  calc (signedValue negative digits).natAbs
      = decimalValue digits := natAbs_signedValue negative digits
    _ < 10 ^ digits.length := decimalValue_lt allDigits
    _ ≤ 10 ^ digitLimit := Nat.pow_le_pow_right (by decide) short

variable {cursor next : Cursor} {value : Value}

/-- A value without items and entries that a JSON text can hold. -/
def IsScalar (value : Value) : Prop :=
  value.IsJson ∧ ∀ room, value.NestsWithin room

theorem isScalar_of_readNumber (read : readNumber cursor = .ok (value, next)) :
    IsScalar value := by
  unfold readNumber at read
  extract_lets sign whole behind fraction power after at read
  by_cases nothing : whole.isEmpty
  · rw [if_pos nothing] at read
    cases read
  · rw [if_neg nothing] at read
    by_cases plain : fraction.isEmpty && power.isEmpty
    · rw [if_pos plain] at read
      by_cases long : digitLimit < whole.length
      · rw [if_pos long] at read
        cases read
      · rw [if_neg long] at read
        obtain ⟨rfl, -⟩ := Prod.mk.inj (Except.ok.inj read)
        exact ⟨isJson_signedValue isAsciiDigit_of_mem_wholeDigits (Nat.le_of_not_lt long) _,
          fun room => .flat nofun nofun⟩
    · rw [if_neg plain] at read
      cases known : Binary64.readWord (sign ++ whole ++ fraction ++ power) with
      | none =>
          rw [known] at read
          cases read
      | some x =>
          rw [known] at read
          obtain ⟨rfl, -⟩ := Prod.mk.inj (Except.ok.inj read)
          exact ⟨.float x, fun room => .flat nofun nofun⟩

theorem isScalar_of_mem_words : ∀ word ∈ words, IsScalar word.2 := by
  rw [words]
  repeat' rw [List.forall_mem_cons]
  exact ⟨⟨.null, fun room => .flat nofun nofun⟩, ⟨.bool _, fun room => .flat nofun nofun⟩,
    ⟨.bool _, fun room => .flat nofun nofun⟩, ⟨.float _, fun room => .flat nofun nofun⟩,
    ⟨.float _, fun room => .flat nofun nofun⟩, ⟨.float _, fun room => .flat nofun nofun⟩,
    List.forall_mem_nil _⟩

theorem isScalar_of_readScalar (read : readScalar cursor = .ok (value, next)) :
    IsScalar value := by
  unfold readScalar at read
  split at read
  · rename_i word given found
    cases read
    exact isScalar_of_mem_words _ (List.mem_of_find?_eq_some found)
  · exact isScalar_of_readNumber read

/-! ## Values -/

/-- With some fuel, reading gives what JSON can hold, nested no deeper than the brackets
around it leave room for, and reading on in a list or a mapping does when this holds of
what was read before. -/
structure ReadsJson (fuel : Nat) : Prop where
  value : ∀ {depth cursor value next},
    readValue fuel depth cursor = .ok (value, next) →
      value.IsJson ∧ value.NestsWithin (depthLimit - depth)
  items : ∀ {depth before cursor items next},
    (∀ item ∈ before, item.IsJson ∧ item.NestsWithin (depthLimit - depth)) →
      readItems fuel depth before cursor = .ok (items, next) →
        ∀ item ∈ items, item.IsJson ∧ item.NestsWithin (depthLimit - depth)
  entries : ∀ {depth before cursor} {entries : Entries} {next}, (Value.dict before).IsJson →
    (∀ entry ∈ before, entry.2.NestsWithin (depthLimit - depth)) →
      readEntries fuel depth before cursor = .ok (entries, next) →
        (Value.dict entries).IsJson ∧
          ∀ entry ∈ entries, entry.2.NestsWithin (depthLimit - depth)

namespace ReadsJson

variable {fuel depth : Nat}

theorem room_succ (shallow : ¬ depthLimit ≤ depth) :
    depthLimit - depth = depthLimit - (depth + 1) + 1 := by
  omega

theorem value_succ
    (reads : ReadsJson fuel)
    (read : readValue (fuel + 1) depth cursor = .ok (value, next)) :
    value.IsJson ∧ value.NestsWithin (depthLimit - depth) := by
  unfold readValue at read
  split at read
  · rename_i rest _
    rcases text : readText cursor.index (cursor.index + 1) 0 [] rest with refusal | ⟨s, after⟩
    · rw [text] at read
      cases read
    · rw [text] at read
      cases read
      exact ⟨.text s, .flat nofun nofun⟩
  · split at read
    · cases read
    · rename_i shallow
      rw [room_succ shallow]
      dsimp only at read
      split at read
      · cases read
        exact ⟨.empty, .dict (List.forall_mem_nil _)⟩
      · rcases inner : readEntries fuel (depth + 1) [] (cursor.skip 1).skipSpace with
          refusal | ⟨entries, after⟩
        · rw [inner] at read
          cases read
        · rw [inner] at read
          cases read
          obtain ⟨json, nest⟩ := reads.entries .empty (List.forall_mem_nil _) inner
          exact ⟨json, .dict nest⟩
  · split at read
    · cases read
    · rename_i shallow
      rw [room_succ shallow]
      dsimp only at read
      split at read
      · cases read
        exact ⟨.list (List.forall_mem_nil _), .list (List.forall_mem_nil _)⟩
      · rcases inner : readItems fuel (depth + 1) [] (cursor.skip 1).skipSpace with
          refusal | ⟨items, after⟩
        · rw [inner] at read
          cases read
        · rw [inner] at read
          cases read
          have both := reads.items (List.forall_mem_nil _) inner
          exact ⟨.list fun item member => (both item member).1,
            .list fun item member => (both item member).2⟩
  · exact (isScalar_of_readScalar read).imp_right fun flat => flat _

theorem items_succ
    (reads : ReadsJson fuel) {before items : List Value}
    (earlier : ∀ item ∈ before, item.IsJson ∧ item.NestsWithin (depthLimit - depth))
    (read : readItems (fuel + 1) depth before cursor = .ok (items, next)) :
    ∀ item ∈ items, item.IsJson ∧ item.NestsWithin (depthLimit - depth) := by
  unfold readItems at read
  rcases first : readValue fuel depth cursor with refusal | ⟨item, after⟩
  · rw [first] at read
    cases read
  · rw [first] at read
    have known : ∀ other ∈ item :: before,
        other.IsJson ∧ other.NestsWithin (depthLimit - depth) :=
      List.forall_mem_cons.mpr ⟨reads.value first, earlier⟩
    simp only [bind, Except.bind] at read
    split at read
    · cases read
      intro other member
      exact known other (List.mem_reverse.mp member)
    · exact reads.items known read
    · cases read

theorem entries_succ
    (reads : ReadsJson fuel) {before entries : Entries}
    (earlier : (Value.dict before).IsJson)
    (nest : ∀ entry ∈ before, entry.2.NestsWithin (depthLimit - depth))
    (read : readEntries (fuel + 1) depth before cursor = .ok (entries, next)) :
    (Value.dict entries).IsJson ∧
      ∀ entry ∈ entries, entry.2.NestsWithin (depthLimit - depth) := by
  unfold readEntries at read
  split at read
  · rename_i rest _
    rcases text : readText cursor.index (cursor.index + 1) 0 [] rest with refusal | ⟨name, behind⟩
    · rw [text] at read
      cases read
    · rw [text] at read
      simp only [bind, Except.bind] at read
      split at read
      · rcases first : readValue fuel depth (behind.skipSpace.skip 1).skipSpace with
          refusal | ⟨value, after⟩
        · rw [first] at read
          cases read
        · rw [first] at read
          obtain ⟨valueJson, valueNests⟩ := reads.value first
          have known : (Value.dict (before.put name value)).IsJson :=
            earlier.put name valueJson
          have knownNest :
              ∀ entry ∈ before.put name value, entry.2.NestsWithin (depthLimit - depth) :=
            Entries.forall_mem_put nest valueNests
          dsimp only at read
          split at read
          · cases read
            exact ⟨known, knownNest⟩
          · exact reads.entries known knownNest read
          · cases read
      · cases read
  · cases read

end ReadsJson

/-- What the reader gives is a JSON value, at every depth of brackets. -/
theorem readsJson (fuel : Nat) : ReadsJson fuel := by
  -- The three readers call each other, always with less fuel.
  induction fuel with
  | zero =>
      constructor
      · intro depth cursor value next read
        rw [readValue] at read
        cases read
      · intro depth before cursor items next _ read
        rw [readItems] at read
        cases read
      · intro depth before cursor entries next _ _ read
        rw [readEntries] at read
        cases read
  | succ fuel reads => exact ⟨reads.value_succ, reads.items_succ, reads.entries_succ⟩

theorem exists_readValue_of_read {source : String} (given : read source = .ok value) :
    ∃ fuel start next, readValue fuel 0 start = .ok (value, next) := by
  unfold read readWhole at given
  split at given
  · cases given
  · rcases whole : readValue (2 * source.toList.length + 2) 0
        (Cursor.skipSpace ⟨0, source.toList⟩) with refusal | ⟨found, after⟩
    · rw [whole] at given
      cases given
    · rw [whole] at given
      simp only [bind, Except.bind] at given
      split at given
      · cases given
        exact ⟨_, _, _, whole⟩
      · cases given

/-- A value that fills a text is one of JSON. -/
theorem isJson_of_read {source : String} (given : read source = .ok value) : value.IsJson := by
  obtain ⟨fuel, start, next, whole⟩ := exists_readValue_of_read given
  exact ((readsJson fuel).value whole).1

/-- A value that fills a text is nested no deeper than brackets may be. -/
theorem nestsWithin_of_read
    {source : String} (given : read source = .ok value) : value.NestsWithin depthLimit := by
  obtain ⟨fuel, start, next, whole⟩ := exists_readValue_of_read given
  exact ((readsJson fuel).value whole).2

/-- The reader gives up on a text: a whole number is too long, or brackets are nested too
deeply. -/
def GivesUp (refused : Fault) : Prop :=
  refused = .tooDeep ∨ ∃ n, refused = .number n

/-- What was read can be written again. -/
theorem writable_of_read {source : String} (given : read source = .ok value) : value.Writable :=
  (isJson_of_read given).writable

end QuoteDesk.Json
