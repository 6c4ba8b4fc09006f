import QuoteDesk.Proofs.Json.Writing
import QuoteDesk.Value.Arithmetic

/-!
# The same value in another order

A mapping is the same in every order of its entries.  So a value of JSON with its entries in
the order in which they are written is the same value, unless a mark for no number stands in
it, which is not even the same as itself.
-/

namespace QuoteDesk

open Number

/-! ## Entries in another order -/

namespace Entries

variable {entries others : Entries} {name : String} {value : Value}

theorem valueOf?_eq_some_iff (names : (entries.map Prod.fst).Nodup) :
    entries.valueOf? name = some value ↔ (name, value) ∈ entries := by
  refine ⟨mem_of_lookup, fun member => ?_⟩
  induction entries with
  | nil => cases member
  | cons entry rest inductionHypothesis =>
      obtain ⟨key, old⟩ := entry
      rw [List.map_cons, List.nodup_cons] at names
      rw [valueOf?_cons]
      rcases List.mem_cons.mp member with same | later
      · cases same
        exact if_pos rfl
      · rw [if_neg, inductionHypothesis names.2 later]
        intro same
        exact names.1 (List.mem_map.mpr ⟨(name, value), later, same⟩)

/-- The value of a name does not depend on the order of the entries. -/
theorem valueOf?_of_perm
    (perm : entries.Perm others) (names : (entries.map Prod.fst).Nodup) (name : String) :
    entries.valueOf? name = others.valueOf? name := by
  have otherNames : (others.map Prod.fst).Nodup := (perm.map Prod.fst).nodup names
  refine Option.ext fun value => ?_
  rw [valueOf?_eq_some_iff names, valueOf?_eq_some_iff otherNames, perm.mem_iff]

theorem valueOf?_map (entries : Entries) (change : Value → Value) (name : String) :
    Entries.valueOf? (entries.map fun entry => (entry.1, change entry.2)) name =
      (entries.valueOf? name).map change := by
  induction entries with
  | nil => rfl
  | cons entry rest inductionHypothesis =>
      obtain ⟨key, old⟩ := entry
      rw [List.map_cons, valueOf?_cons, valueOf?_cons, inductionHypothesis]
      split <;> rfl

/-- The entries of a mapping, and of what stands in it, in the order in which they are
written. -/
def arranged (sorted : Bool) (entries : Entries) : Entries :=
  Value.ordered sorted (entries.map fun entry => (entry.1, entry.2.arranged sorted))

theorem arranged_dict (sorted : Bool) (entries : Entries) :
    (Value.dict entries).arranged sorted = .dict (entries.arranged sorted) := by
  rw [Value.arranged, Value.arrangedEntries_eq]
  rfl

theorem names_arranged_perm (sorted : Bool) (entries : Entries) :
    ((entries.arranged sorted).map Prod.fst).Perm (entries.map Prod.fst) := by
  have names : (entries.map fun entry => (entry.1, entry.2.arranged sorted)).map Prod.fst =
      entries.map Prod.fst := by
    rw [List.map_map]
    rfl
  rw [← names]
  exact (Value.perm_ordered sorted _).map Prod.fst

theorem valueOf?_arranged
    (names : (entries.map Prod.fst).Nodup) (sorted : Bool) (name : String) :
    (entries.arranged sorted).valueOf? name =
      (entries.valueOf? name).map (Value.arranged sorted) := by
  have arrangedNames := (names_arranged_perm sorted entries).symm.nodup names
  have unordered := Value.perm_ordered sorted
    (entries.map fun entry => (entry.1, entry.2.arranged sorted))
  exact (valueOf?_of_perm unordered arrangedNames name).trans (valueOf?_map entries _ name)

theorem filter_ordered
    {α : Type} {entries : List (String × α)} (names : (entries.map Prod.fst).Nodup) (sorted : Bool)
    (keep : String × α → Bool) :
    (Value.ordered sorted entries).filter keep = Value.ordered sorted (entries.filter keep) := by
  cases sorted with
  | false => rfl
  | true =>
      have inOrder : ∀ entries : List (String × α),
          (Value.ordered true entries).Pairwise fun x y => decide (x.1 ≤ y.1) = true := by
        intro entries
        refine List.pairwise_mergeSort (fun x y z => ?_) (fun x y => ?_) entries
        · simp only [decide_eq_true_eq]
          exact String.le_trans
        · simp only [Bool.or_eq_true, decide_eq_true_eq]
          exact String.le_total _ _
      have perm : ((Value.ordered true entries).filter keep).Perm
          (Value.ordered true (entries.filter keep)) :=
        ((Value.perm_ordered true entries).filter keep).trans (Value.perm_ordered true _).symm
      refine List.Perm.eq_of_pairwise (fun x y here there before behind => ?_)
        ((inOrder entries).filter keep) (inOrder _) perm
      have xMember := (Value.perm_ordered true entries).mem_iff.mp (List.mem_of_mem_filter here)
      have yMember := List.mem_of_mem_filter ((Value.perm_ordered true _).mem_iff.mp there)
      exact List.inj_on_of_nodup_map names xMember yMember
        (String.le_antisymm (of_decide_eq_true before) (of_decide_eq_true behind))

/-- An entry can be left out before or after putting the others in their order. -/
theorem without_arranged
    (names : (entries.map Prod.fst).Nodup) (sorted : Bool) (name : String) :
    (entries.arranged sorted).without name = (entries.without name).arranged sorted := by
  have changedNames :
      ((entries.map fun entry => (entry.1, entry.2.arranged sorted)).map Prod.fst).Nodup := by
    rw [List.map_map]
    exact names
  unfold without arranged
  rw [filter_ordered changedNames, List.filter_map]
  rfl

end Entries

/-! ## Sameness -/

namespace Value

variable {entries others : Entries} {value : Value}

theorem sameEntries_iff :
    sameEntries entries others = true ↔
      ∀ entry ∈ entries, ∃ value, others.valueOf? entry.1 = some value ∧
        same entry.2 value = true := by
  induction entries with
  | nil => exact iff_of_true (by rw [sameEntries]) (List.forall_mem_nil _)
  | cons entry rest inductionHypothesis =>
      obtain ⟨name, first⟩ := entry
      have looked : others.lookup name = others.valueOf? name := rfl
      rw [sameEntries, looked, List.forall_mem_cons, ← inductionHypothesis]
      cases others.valueOf? name with
      | none => simp
      | some found => simp

theorem same_int (n : Int) : same (.int n) (.int n) = true := by
  simp [same, magnitude?, Magnitude.compare?, compareRat, Except.toOption]

theorem same_bool (b : Bool) : same (.bool b) (.bool b) = true := by
  simp [same, magnitude?, Magnitude.compare?, compareRat, Except.toOption]

theorem same_float {x : Binary64} (number : x ≠ .notANumber) :
    same (.float x) (.float x) = true := by
  cases x with
  | notANumber => exact absurd rfl number
  | infinite negative => simp [same, magnitude?, Magnitude.compare?, Except.toOption]
  | finite negative significand exponent =>
      simp [same, magnitude?, Binary64.toRat?, Magnitude.compare?, compareRat, Except.toOption]

theorem sameItems_map
    {items : List Value} {change : Value → Value} (all : ∀ item ∈ items, same (change item) item = true) :
    sameItems (items.map change) items = true := by
  induction items with
  | nil => rw [List.map_nil, sameItems]
  | cons item rest inductionHypothesis =>
      obtain ⟨first, others⟩ := List.forall_mem_cons.mp all
      rw [List.map_cons, sameItems, first, inductionHypothesis others]
      rfl

/-- A value in the order in which it is written is the same value. -/
theorem same_arranged
    (json : value.IsJson) (numbers : ¬ (Value.float .notANumber).StandsIn value) (sorted : Bool) :
    (value.arranged sorted).same value = true := by
  induction json with
  | null => rfl
  | bool b => exact same_bool b
  | @int n short => exact same_int n
  | float x =>
      refine same_float ?_
      rintro rfl
      exact numbers .self
  | text s => simp [arranged, same]
  | @list items all inductionHypothesis =>
      rw [arranged, arrangedItems_eq, same]
      refine sameItems_map fun item member => ?_
      exact inductionHypothesis item member fun inside => numbers (.item member inside)
  | @dict entries names all inductionHypothesis =>
      rw [Entries.arranged_dict, same, Bool.and_eq_true, sameEntries_iff]
      have sizes := (Entries.names_arranged_perm sorted entries).length_eq
      rw [List.length_map, List.length_map] at sizes
      refine ⟨decide_eq_true sizes, fun entry member => ?_⟩
      have unordered := (perm_ordered sorted _).mem_iff.mp member
      obtain ⟨original, originalMember, rfl⟩ := List.mem_map.mp unordered
      exact ⟨original.2, (Entries.valueOf?_eq_some_iff names).mpr originalMember,
        inductionHypothesis original originalMember fun inside =>
          numbers (.entry originalMember inside)⟩

end Value

end QuoteDesk
