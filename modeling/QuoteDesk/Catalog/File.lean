import QuoteDesk.Catalog
import QuoteDesk.File.Store
import QuoteDesk.Json.Reader

/-!
# Catalog files

A catalog file is a list of items in JSON, or a mapping with such a list under one name. Members of
the list that are no items with an id are left out.
-/

namespace QuoteDesk

open Number

namespace Catalog

def listName : String := "inventory"

/-- Whether a member of the list is an item: a mapping with an id. -/
def isItem (member : Value) : Bool :=
  match member with
  | .dict entries =>
    match entries.lookup "id" with
    | none => false
    | some .null => false
    | some _ => true
  | _ => false

def listOf? (content : Value) : Option (List Value) :=
  match content with
  | .list members => some members
  | .dict entries =>
    match entries.lookup listName with
    | none => some []
    | some (.list members) => some members
    | some _ => none
  | _ => none

def load (files : FileStore) (path : Path) : Except Fault (List Value) := do
  let text ← files.readText path
  match Json.read text with
  | .error fault => throw (.json fault)
  | .ok content =>
    match listOf? content with
    | some members => return members.filter isItem
    | none => throw (.badValue s!"Inventory file {path.text} must contain a list of items")

end Catalog

end QuoteDesk
