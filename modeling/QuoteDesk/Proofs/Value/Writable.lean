import QuoteDesk.Proofs.Number.Length
import QuoteDesk.Value

/-!
# Values that can be written

A value has a shown form unless a whole number in it has too many digits.  A list or
a mapping can be written when all that it holds can be.
-/

namespace QuoteDesk

open Number Text

namespace Value

/-- A value that has a shown form. -/
def Writable (value : Value) : Prop :=
  ∃ s, value.shown = .ok s

theorem Writable.exists_display
    {value : Value} (writable : value.Writable) : ∃ s, value.display = .ok s := by
  unfold Value.display
  split
  · exact ⟨_, rfl⟩
  · exact ⟨_, rfl⟩
  · exact writable

theorem writable_int_iff {n : Int} : (Value.int n).Writable ↔ n.natAbs < 10 ^ digitLimit := by
  rw [← decimalLength_le_iff (by decide), Writable, shown, writeInteger]
  by_cases long : digitLimit < decimalLength n.natAbs
  · rw [if_pos long]
    refine iff_of_false ?_ (Nat.not_le.mpr long)
    rintro ⟨s, ⟨⟩⟩
  · rw [if_neg long]
    exact iff_of_true ⟨_, rfl⟩ (Nat.le_of_not_lt long)

/-! ### Texts put together -/

section Frames

variable {first : Except IntegerFault String} {more : Except IntegerFault (List String)}

theorem exists_cons_iff (frame : String → String) :
    (∃ texts, (do return frame (← first) :: (← more)) = Except.ok texts) ↔
      (∃ s, first = .ok s) ∧ ∃ texts, more = .ok texts := by
  rcases first with fault | s
  · refine iff_of_false ?_ ?_
    · rintro ⟨texts, ⟨⟩⟩
    · rintro ⟨⟨s, ⟨⟩⟩, -⟩
  · rcases more with fault | texts
    · refine iff_of_false ?_ ?_
      · rintro ⟨texts, ⟨⟩⟩
      · rintro ⟨-, texts, ⟨⟩⟩
    · exact iff_of_true ⟨_, rfl⟩ ⟨⟨s, rfl⟩, texts, rfl⟩

theorem exists_framed_iff (frame : List String → String) :
    (∃ s, (do return frame (← more)) = Except.ok s) ↔ ∃ texts, more = .ok texts := by
  rcases more with fault | texts
  · refine iff_of_false ?_ ?_
    · rintro ⟨s, ⟨⟩⟩
    · rintro ⟨texts, ⟨⟩⟩
  · exact iff_of_true ⟨_, rfl⟩ ⟨texts, rfl⟩

end Frames

theorem exists_shownItems_iff {items : List Value} :
    (∃ texts, shownItems items = .ok texts) ↔ ∀ item ∈ items, item.Writable := by
  induction items with
  | nil => exact iff_of_true ⟨[], by rw [shownItems]⟩ (List.forall_mem_nil _)
  | cons item rest inductionHypothesis =>
      rw [List.forall_mem_cons, ← inductionHypothesis, shownItems]
      exact exists_cons_iff id

theorem exists_shownEntries_iff {entries : Entries} :
    (∃ texts, shownEntries entries = .ok texts) ↔ ∀ entry ∈ entries, entry.2.Writable := by
  induction entries with
  | nil =>
      exact iff_of_true ⟨[], by rw [shownEntries]⟩ (List.forall_mem_nil _)
  | cons entry rest inductionHypothesis =>
      obtain ⟨name, value⟩ := entry
      rw [List.forall_mem_cons, ← inductionHypothesis, shownEntries]
      exact exists_cons_iff (quoted name ++ ": " ++ ·)

theorem writable_list_iff {items : List Value} :
    (Value.list items).Writable ↔ ∀ item ∈ items, item.Writable := by
  rw [← exists_shownItems_iff, Writable, shown]
  exact exists_framed_iff fun texts => "[" ++ ", ".intercalate texts ++ "]"

theorem writable_dict_iff {entries : Entries} :
    (Value.dict entries).Writable ↔ ∀ entry ∈ entries, entry.2.Writable := by
  rw [← exists_shownEntries_iff, Writable, shown]
  exact exists_framed_iff fun texts => "\x7b" ++ ", ".intercalate texts ++ "\x7d"

end Value

/-! ## The entries of mappings -/

namespace Entries

theorem forall_mem_put
    {entries : Entries} {name : String} {value : Value} {holds : Value → Prop}
    (all : ∀ entry ∈ entries, holds entry.2) (held : holds value) :
    ∀ entry ∈ entries.put name value, holds entry.2 := by
  induction entries with
  | nil =>
      rw [put, List.forall_mem_singleton]
      exact held
  | cons entry rest inductionHypothesis =>
      obtain ⟨other, old⟩ := entry
      obtain ⟨first, more⟩ := List.forall_mem_cons.mp all
      unfold put
      by_cases here : other = name
      · rw [if_pos here, List.forall_mem_cons]
        exact ⟨held, more⟩
      · rw [if_neg here, List.forall_mem_cons]
        exact ⟨first, inductionHypothesis more⟩

theorem mem_of_lookup
    {entries : Entries} {name : String} {value : Value}
    (found : entries.lookup name = some value) : (name, value) ∈ entries := by
  obtain ⟨before, after, split, -⟩ := List.lookup_eq_some_iff.mp found
  rw [split]
  exact List.mem_append_right before List.mem_cons_self

end Entries

namespace Value

theorem Writable.lookup
    {entries : Entries} {name : String} {value : Value} (writable : (Value.dict entries).Writable)
    (found : entries.lookup name = some value) : value.Writable :=
  writable_dict_iff.mp writable _ (Entries.mem_of_lookup found)

theorem Writable.field
    {entries : Entries} {name : String} {default : Value} (writable : (Value.dict entries).Writable)
    (spare : default.Writable) : ((Value.dict entries).field name default).Writable := by
  have fieldEq : (Value.dict entries).field name default = (entries.lookup name).getD default := rfl
  rw [fieldEq]
  cases found : entries.lookup name with
  | none => exact spare
  | some value => exact writable.lookup found

end Value

end QuoteDesk
