import QuoteDesk.Analysis.Basic
import QuoteDesk.Catalog

/-!
# Showing an analysis

An analysis is shown as a short document: what is known of the building, what it needs and the
articles that are recommended.
-/

namespace QuoteDesk

open Number

namespace Analysis

/-- A field of something that has to be a mapping. -/
def mappingField (value : Value) (name : String) (default : Value) : Except Fault Value :=
  match value with
  | .dict _ => .ok (value.field name default)
  | _ => .error (.missingPart s!"'{value.typeName}' object has no attribute 'get'")

def fieldText (value : Value) (name : String) (default : Value) : Except Fault String := do
  (← mappingField value name default).display.mapError .number

/-- The lines about access control, if the analysis has them. -/
def accessLines (infrastructure : Value) : Except Fault (List String) := do
  match ← mappingField infrastructure "access_control" .null with
  | .dict entries =>
    let readers ← fieldText (.dict entries) "readers" (.int 0)
    let controllers ← fieldText (.dict entries) "controllers" (.int 0)
    return ["", "### Infrastructure Requirements",
      s!"- **Access Control:** {readers} readers, {controllers} controllers"]
  | _ => return []

def lineText (line : BomLine) : Except Fault String := do
  let reasoning ← line.reasoning.display.mapError .number
  let description ← line.description.display.mapError .number
  let quantity ← line.quantity.display.mapError .number
  return s!"- {description} ({quantity} units)" ++
    (if line.reasoning.isTruthy then " - " ++ reasoning else "")

def totalText (total : Value) : Except Fault String :=
  match total with
  | .null => .ok "TBD"
  | total => total.display.mapError .number

def bomLines (bom : Bom) : Except Fault (List String) := do
  if bom.lines.isEmpty then return ["", "No matching inventory items were recommended."]
  let lines ← bom.lines.mapM lineText
  let total ← totalText bom.total
  return ["", "### Recommended Items"] ++ lines ++
    ["", "### Estimated Cost: " ++ total, "",
      "Use `/bom add` to add these items to your quote or `/bom dismiss` to discard them."]

def report (analysis : Analysis) : Except Fault String := do
  let building ← fieldText analysis.spec "type" (.text "N/A")
  let floors ← fieldText analysis.spec "floors" (.text "N/A")
  let users ← fieldText analysis.spec "users" (.text "N/A")
  let entrances ← fieldText analysis.spec "entrances" (.text "N/A")
  let access ← accessLines analysis.infrastructure
  let items ← bomLines analysis.bom
  return "\n".intercalate
    (["## Building Analysis Complete", "", "**Building Type:** " ++ building,
      "**Floors:** " ++ floors, "**Users:** " ++ users, "**Entrances:** " ++ entrances] ++
      access ++ items)

/-- The message that confirms how many articles were put on the quote. -/
def confirmation (count : Nat) : String :=
  s!"✅ Added {count} items from the BOM to your quote!"

end Analysis

end QuoteDesk
