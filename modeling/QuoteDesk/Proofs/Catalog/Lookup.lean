import QuoteDesk.Catalog
import QuoteDesk.Proofs.Number.Length

/-!
# A catalog finds the first item

A catalog is built item by item and never replaces an entry.  So what it finds
under an id is the first of the items whose id as text is that one.
-/

namespace QuoteDesk

/-- Whether an item has this id as text. -/
def Value.hasId (item : Value) (id : String) : Bool :=
  (itemId item).toOption == some (some id)

/-- The first of some items with an id. -/
def firstWithId (items : List Value) (id : String) : Option Value :=
  items.find? fun item => item.hasId id

theorem firstWithId_cons (item : Value) (rest : List Value) (id : String) :
    firstWithId (item :: rest) id =
      if item.hasId id then some item else firstWithId rest id := by
  rw [firstWithId, firstWithId, List.find?_cons]
  cases item.hasId id <;> rfl

/-- No item has an id other than a text. -/
def HasTextIds (inventory : Value) : Prop :=
  ∃ items, inventory.members = .ok items ∧
    ∀ item ∈ items,
      item.field? "id" = none ∨ item.field? "id" = some .null ∨
        ∃ id, item.field? "id" = some (.text id)

namespace Catalog

/-- Puts one item into a catalog under its id, if it has one. -/
def step (catalog : Catalog) (item : Value) : Except Number.IntegerFault Catalog :=
  match itemId item with
  | .ok (some id) => .ok (catalog.insert id item)
  | .ok none => .ok catalog
  | .error fault => .error fault

theorem ofItems_eq_foldlM (items : List Value) :
    ofItems items = items.foldlM step [] := by
  rw [ofItems]
  congr 1
  funext catalog item
  rw [step]
  rcases itemId item with fault | _ | id <;> rfl

private theorem find?_foldlM
    {items : List Value} {initial catalog : Catalog}
    (built : items.foldlM step initial = .ok catalog) (id : String) :
    catalog.find? id = (initial.find? id).or (firstWithId items id) := by
  induction items generalizing initial with
  | nil =>
      cases built
      simp [firstWithId]
  | cons item rest inductionHypothesis =>
      rw [List.foldlM_cons] at built
      cases known : itemId item with
      | error fault =>
          rw [step, known] at built
          cases built
      | ok found =>
          cases found with
          | none =>
              rw [step, known] at built
              have different : item.hasId id = false := by
                simp [Value.hasId, known, Except.toOption]
              rw [inductionHypothesis built, firstWithId_cons, if_neg (by simp [different])]
          | some own =>
              rw [step, known] at built
              rw [inductionHypothesis built, find?_insert, Option.or_assoc,
                firstWithId_cons]
              by_cases same : id = own
              · have hit : item.hasId id = true := by
                  simp [Value.hasId, known, same, Except.toOption]
                rw [if_pos same, if_pos hit, Option.some_or]
              · have miss : item.hasId id = false := by
                  simp [Value.hasId, known, Ne.symm same, Except.toOption]
                rw [if_neg same, if_neg (by simp [miss]), Option.none_or]

/-- The catalog of a list finds the first item with an id. -/
theorem find?_ofItems
    {items : List Value} {catalog : Catalog}
    (built : ofItems items = .ok catalog) (id : String) :
    catalog.find? id = firstWithId items id := by
  rw [ofItems_eq_foldlM] at built
  simpa [find?] using find?_foldlM built id

theorem exists_foldlM_iff {items : List Value} (initial : Catalog) :
    (∃ catalog, items.foldlM step initial = .ok catalog) ↔
      ∀ item ∈ items, ∃ id, itemId item = .ok id := by
  induction items generalizing initial with
  | nil => exact iff_of_true ⟨initial, rfl⟩ (List.forall_mem_nil _)
  | cons item rest inductionHypothesis =>
      rw [List.foldlM_cons, List.forall_mem_cons, step]
      cases known : itemId item with
      | error fault =>
          refine iff_of_false ?_ ?_
          · rintro ⟨catalog, ⟨⟩⟩
          · rintro ⟨⟨id, ⟨⟩⟩, -⟩
      | ok found =>
          have first : ∃ id, (.ok found : Except Number.IntegerFault (Option String)) = .ok id :=
            ⟨found, rfl⟩
          rw [and_iff_right first]
          cases found with
          | none => exact inductionHypothesis initial
          | some id => exact inductionHypothesis (initial.insert id item)

/-- Items whose ids can be written have a catalog. -/
theorem ofItems_isOk
    {items : List Value} (named : ∀ item ∈ items, ∃ found, itemId item = .ok found) :
    ∃ catalog, ofItems items = .ok catalog := by
  rw [ofItems_eq_foldlM]
  exact (exists_foldlM_iff []).mpr named

theorem foldlM_cons_of_error
    {item : Value} {fault : Number.IntegerFault}
    (unwritable : itemId item = .error fault) (rest : List Value) (initial : Catalog) :
    (item :: rest).foldlM step initial = .error fault := by
  rw [List.foldlM_cons, step, unwritable]
  rfl

end Catalog

theorem itemId_isOk_of_textId
    {item : Value}
    (textId : item.field? "id" = none ∨ item.field? "id" = some .null ∨
      ∃ id, item.field? "id" = some (.text id)) :
    ∃ found, itemId item = .ok found := by
  rcases textId with absent | null | ⟨id, given⟩
  · exact ⟨none, by rw [itemId, absent]⟩
  · exact ⟨none, by rw [itemId, null]⟩
  · exact ⟨some id, by rw [itemId, given]; rfl⟩

end QuoteDesk
