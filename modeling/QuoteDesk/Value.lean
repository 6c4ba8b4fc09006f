import QuoteDesk.Number.Binary64.Text
import QuoteDesk.Number.Decimal.Text
import QuoteDesk.Text.Quoted

/-!
# Values

Catalog items, settings, replies and payloads hold values of no fixed type. A mapping keeps its
entries in the order in which they were put in; a record has named attributes and is no mapping.
A value has two texts: its display, in which a text stands as it is, and its shown form, in which
texts are quoted. Both refuse whole numbers of more than 4300 digits. How deeply a value is nested
makes no difference: no limit on open calls stands in the way of a text.
-/

namespace QuoteDesk

open Number Text

/-- A value of no fixed type. -/
inductive Value where
  | null
  | bool (b : Bool)
  | int (n : Int)
  | float (x : Binary64)
  | decimal (d : Decimal)
  | text (s : String)
  | bytes (data : List UInt8)
  | list (items : List Value)
  | dict (entries : List (String × Value))
  | record (attributes : List (String × Value))
deriving Inhabited

/-- Named values in the order in which they were put in. -/
abbrev Entries := List (String × Value)

/-! ## Entries -/

namespace Entries

/-- The value of the first entry with a name. -/
def valueOf? (entries : Entries) (name : String) : Option Value :=
  entries.lookup name

/-- Replaces the value of a name in place, or puts it at the end. -/
def put (entries : Entries) (name : String) (value : Value) : Entries :=
  match entries with
  | [] => [(name, value)]
  | (other, old) :: rest =>
    if other = name then (name, value) :: rest else (other, old) :: put rest name value

/-- Puts the entries of a second mapping, one after the other. -/
def putAll (entries more : Entries) : Entries :=
  more.foldl (fun all entry => put all entry.1 entry.2) entries

/-- The entries without those of a name. -/
def without (entries : Entries) (name : String) : Entries :=
  entries.filter fun entry => entry.1 ≠ name

@[simp] theorem valueOf?_nil (name : String) : valueOf? [] name = none := rfl

theorem valueOf?_cons (key : String) (value : Value) (rest : Entries) (name : String) :
    valueOf? ((key, value) :: rest) name = if name = key then some value else rest.valueOf? name := by
  by_cases same : name = key
  · simp [valueOf?, same]
  · simp [valueOf?, List.lookup_cons, beq_eq_false_iff_ne.2 same, same]

end Entries

namespace Value

/-! ## Kinds of values -/

def typeName : Value → String
  | .null => "NoneType"
  | .bool _ => "bool"
  | .int _ => "int"
  | .float _ => "float"
  | .decimal _ => "decimal.Decimal"
  | .text _ => "str"
  | .bytes _ => "bytes"
  | .list _ => "list"
  | .dict _ => "dict"
  | .record _ => "types.SimpleNamespace"

/-- Whether a value counts as present: absent are null, false, every zero and everything empty. -/
def isTruthy : Value → Bool
  | .null => false
  | .bool b => b
  | .int n => n != 0
  | .float x => !x.isZero
  | .decimal (.finite _ coefficient _) => coefficient != 0
  | .decimal _ => true
  | .text s => !s.isEmpty
  | .bytes data => !data.isEmpty
  | .list items => !items.isEmpty
  | .dict entries => !entries.isEmpty
  | .record _ => true

/-- A field of a mapping or an attribute of a record. -/
def field? : Value → String → Option Value
  | .dict entries, name => entries.lookup name
  | .record attributes, name => attributes.lookup name
  | _, _ => none

/-- A field of a mapping or an attribute of a record, or a default where there is none. -/
def field (value : Value) (name : String) (default : Value) : Value :=
  (value.field? name).getD default

/-- The whole number that a whole number or a truth value stands for. -/
def asInt? : Value → Option Int
  | .int n => some n
  | .bool b => some b.toNat
  | _ => none

/-! ## Texts of values -/

def truthText (b : Bool) : String :=
  if b then "True" else "False"

mutual

/-- The shown form of a value, in which texts are quoted. -/
def shown : Value → Except IntegerFault String
  | .null => .ok "None"
  | .bool b => .ok (truthText b)
  | .int n => writeInteger n
  | .float x => .ok x.write
  | .decimal d => .ok ("Decimal('" ++ d.write ++ "')")
  | .text s => .ok (quoted s)
  | .bytes data => .ok (quotedBytes data)
  | .list items => do return "[" ++ ", ".intercalate (← shownItems items) ++ "]"
  | .dict entries => do return "\x7b" ++ ", ".intercalate (← shownEntries entries) ++ "\x7d"
  | .record attributes => do
    return "namespace(" ++ ", ".intercalate (← shownAttributes attributes) ++ ")"

def shownItems : List Value → Except IntegerFault (List String)
  | [] => .ok []
  | item :: rest => do return (← shown item) :: (← shownItems rest)

def shownEntries : List (String × Value) → Except IntegerFault (List String)
  | [] => .ok []
  | (name, value) :: rest => do
    return (quoted name ++ ": " ++ (← shown value)) :: (← shownEntries rest)

def shownAttributes : List (String × Value) → Except IntegerFault (List String)
  | [] => .ok []
  | (name, value) :: rest => do
    return (name ++ "=" ++ (← shown value)) :: (← shownAttributes rest)

end

/-- The display of a value: a text or a decimal as it is, any other value in its shown form. -/
def display : Value → Except IntegerFault String
  | .text s => .ok s
  | .decimal d => .ok d.write
  | value => value.shown

@[simp] theorem display_text (s : String) : (Value.text s).display = .ok s := rfl

example : (Value.list [.text "a", .int 1, .null]).shown.toOption = some "['a', 1, None]" := by
  decide +kernel

end Value

end QuoteDesk
