import QuoteDesk.Proofs.Value.Writable

/-!
# Values of JSON

A JSON text holds null, truth values, numbers, texts, lists and mappings, in which no
name is repeated.  Decimals, bytes and records stand in no such text, and no whole number
that is too long to be written does.
-/

namespace QuoteDesk

open Number

namespace Entries

variable {entries : Entries} {name : String} {value : Value}

theorem mem_names_put {other : String} :
    other ∈ (entries.put name value).map Prod.fst ↔
      other = name ∨ other ∈ entries.map Prod.fst := by
  induction entries with
  | nil => simp [put]
  | cons entry rest inductionHypothesis =>
      obtain ⟨key, old⟩ := entry
      unfold put
      by_cases here : key = name
      · simp [here]
      · rw [if_neg here, List.map_cons, List.map_cons, List.mem_cons, List.mem_cons,
          inductionHypothesis, or_left_comm]

theorem nodup_put (names : (entries.map Prod.fst).Nodup) :
    ((entries.put name value).map Prod.fst).Nodup := by
  induction entries with
  | nil => exact List.nodup_cons.mpr ⟨List.not_mem_nil, List.nodup_nil⟩
  | cons entry rest inductionHypothesis =>
      obtain ⟨key, old⟩ := entry
      rw [List.map_cons, List.nodup_cons] at names
      unfold put
      by_cases here : key = name
      · rw [if_pos here, List.map_cons, List.nodup_cons, ← here]
        exact names
      · rw [if_neg here, List.map_cons, List.nodup_cons, mem_names_put]
        refine ⟨?_, inductionHypothesis names.2⟩
        rintro (same | later)
        · exact here same
        · exact names.1 later

theorem put_of_not_mem (fresh : name ∉ entries.map Prod.fst) :
    entries.put name value = entries ++ [(name, value)] := by
  induction entries with
  | nil => rfl
  | cons entry rest inductionHypothesis =>
      obtain ⟨key, old⟩ := entry
      rw [List.map_cons, List.mem_cons, not_or] at fresh
      rw [put, if_neg (Ne.symm fresh.1), inductionHypothesis fresh.2, List.cons_append]

/-- Entries of new names are put at the end. -/
theorem putAll_of_nodup {more : Entries} (names : ((entries ++ more).map Prod.fst).Nodup) :
    entries.putAll more = entries ++ more := by
  induction more generalizing entries with
  | nil => exact (List.append_nil entries).symm
  | cons entry rest inductionHypothesis =>
      have regrouped : entries ++ entry :: rest = (entries ++ [entry]) ++ rest := by simp
      have fresh : entry.1 ∉ entries.map Prod.fst := by
        rw [List.map_append, List.map_cons] at names
        intro member
        exact (List.nodup_append.mp names).2.2 _ member _ List.mem_cons_self rfl
      rw [regrouped] at names ⊢
      rw [← inductionHypothesis names, ← put_of_not_mem fresh]
      rfl

end Entries

namespace Value

/-- A value that a JSON text can hold. -/
inductive IsJson : Value → Prop
  | null : IsJson .null
  | bool (b : Bool) : IsJson (.bool b)
  | int {n : Int} (short : n.natAbs < 10 ^ digitLimit) : IsJson (.int n)
  | float (x : Binary64) : IsJson (.float x)
  | text (s : String) : IsJson (.text s)
  | list {items : List Value} (all : ∀ item ∈ items, IsJson item) : IsJson (.list items)
  | dict {entries : Entries} (names : (entries.map Prod.fst).Nodup)
      (all : ∀ entry ∈ entries, IsJson entry.2) : IsJson (.dict entries)

namespace IsJson

theorem of_mem_list {items : List Value} (json : IsJson (.list items)) :
    ∀ item ∈ items, item.IsJson := by
  cases json with
  | list all => exact all

theorem of_mem_dict {entries : Entries} (json : IsJson (.dict entries)) :
    ∀ entry ∈ entries, entry.2.IsJson := by
  cases json with
  | dict _ all => exact all

/-- No name occurs twice in a mapping. -/
theorem nodup_names {entries : Entries} (json : IsJson (.dict entries)) :
    (entries.map Prod.fst).Nodup := by
  cases json with
  | dict names _ => exact names

theorem empty : IsJson (.dict []) :=
  .dict List.nodup_nil (List.forall_mem_nil _)

theorem put
    {entries : Entries} {value : Value} (json : IsJson (.dict entries)) (name : String)
    (valueJson : value.IsJson) : IsJson (.dict (entries.put name value)) :=
  .dict (Entries.nodup_put json.nodup_names) (Entries.forall_mem_put json.of_mem_dict valueJson)

theorem not_decimal {d : Decimal} : ¬ IsJson (.decimal d) := by
  rintro ⟨⟩

theorem writable {value : Value} (json : value.IsJson) : value.Writable := by
  induction json with
  | null => exact ⟨_, by rw [shown]⟩
  | bool b => exact ⟨_, by rw [shown]⟩
  | int short => exact writable_int_iff.mpr short
  | float x => exact ⟨_, by rw [shown]⟩
  | text s => exact ⟨_, by rw [shown]⟩
  | list _ inductionHypothesis => exact writable_list_iff.mpr inductionHypothesis
  | dict _ _ inductionHypothesis => exact writable_dict_iff.mpr inductionHypothesis

end IsJson

/-- Lists and mappings are nested in a value at most as deeply as there is room. -/
inductive NestsWithin : Nat → Value → Prop
  | flat {room : Nat} {value : Value} (noList : ∀ items, value ≠ .list items)
      (noDict : ∀ entries, value ≠ .dict entries) : NestsWithin room value
  | list {room : Nat} {items : List Value} (all : ∀ item ∈ items, NestsWithin room item) :
      NestsWithin (room + 1) (.list items)
  | dict {room : Nat} {entries : Entries} (all : ∀ entry ∈ entries, NestsWithin room entry.2) :
      NestsWithin (room + 1) (.dict entries)

theorem NestsWithin.of_mem_dict {room : Nat} {entries : Entries}
    (nests : NestsWithin room (.dict entries)) :
    ∀ entry ∈ entries, entry.2.NestsWithin (room - 1) := by
  cases nests with
  | flat noList noDict => exact absurd rfl (noDict entries)
  | dict all => exact all

/-! ## What stands in a value -/

/-- A value stands in itself and in what holds an item or an entry in which it stands. -/
inductive StandsIn (part : Value) : Value → Prop
  | self : StandsIn part part
  | item {items : List Value} {item : Value} (member : item ∈ items)
      (inside : StandsIn part item) : StandsIn part (.list items)
  | entry {entries : Entries} {entry : String × Value} (member : entry ∈ entries)
      (inside : StandsIn part entry.2) : StandsIn part (.dict entries)

/-- The parts of a JSON value are JSON values. -/
theorem IsJson.of_standsIn
    {part value : Value} (json : value.IsJson) (inside : part.StandsIn value) : part.IsJson := by
  induction inside with
  | self => exact json
  | item member _ inductionHypothesis => exact inductionHypothesis (json.of_mem_list _ member)
  | entry member _ inductionHypothesis => exact inductionHypothesis (json.of_mem_dict _ member)

end Value

end QuoteDesk
