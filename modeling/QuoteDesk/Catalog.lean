import QuoteDesk.Fault

/-!
# The catalog

Catalog items are mappings or records with an `id`, and mostly a name, a stock and a price. Items
are found by the text of their id; of items with the same id the first one counts.
-/

namespace QuoteDesk

open Number Text

/-! ## Items -/

namespace Value

/-- The members that a value offers one after the other; a mapping offers its names. A value that
counts as absent offers none. -/
def members (value : Value) : Except Fault (List Value) :=
  match value with
  | .list items => .ok items
  | .dict entries => .ok (entries.map fun entry => .text entry.1)
  | .text s => .ok (s.toList.map fun c => .text c.toString)
  | .bytes data => .ok (data.map fun byte => .int byte.toNat)
  | value =>
    if value.isTruthy then .error (.wrongType s!"'{value.typeName}' object is not iterable") else .ok []

end Value

/-- The id of an item as text; an item without an id, or with null, has none. -/
def itemId (item : Value) : Except IntegerFault (Option String) :=
  match item.field? "id" with
  | none => .ok none
  | some .null => .ok none
  | some value => value.display.map some

/-- The decimal that a price-like value stands for. Blank values and texts that are no decimal
stand for none. -/
def toDecimal (value : Value) : Option Decimal :=
  match value with
  | .null => none
  | .text "" => none
  | value => value.display.toOption.bind Decimal.read?

/-! ## Looking up -/

/-- Items under their ids, in the order in which the ids first came. -/
abbrev Catalog := List (String × Value)

namespace Catalog

/-- Puts an item under its id, unless there is one already. -/
def insert (catalog : Catalog) (id : String) (item : Value) : Catalog :=
  if (catalog.lookup id).isSome then catalog else catalog ++ [(id, item)]

def ofItems (items : List Value) : Except IntegerFault Catalog :=
  items.foldlM (fun catalog item => do
    match ← itemId item with
    | some id => return catalog.insert id item
    | none => return catalog) []

def find? (catalog : Catalog) (id : String) : Option Value :=
  catalog.lookup id

theorem find?_insert (catalog : Catalog) (id other : String) (item : Value) :
    (catalog.insert id item).find? other =
      (catalog.find? other).or (if other = id then some item else none) := by
  unfold insert find?
  split
  · rename_i present
    by_cases same : other = id
    · subst same
      obtain ⟨found, lookup⟩ := Option.isSome_iff_exists.1 present
      simp [lookup]
    · simp [same]
  · rename_i absent
    rw [List.lookup_append]
    by_cases same : other = id
    · simp [same]
    · simp [List.lookup_cons, beq_eq_false_iff_ne.2 same, same]

end Catalog

end QuoteDesk
