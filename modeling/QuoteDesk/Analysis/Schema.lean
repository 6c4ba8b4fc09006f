import QuoteDesk.Value.Arithmetic

/-!
# Schemas of values

A schema states what a value has to look like: its types, the names it must have, the schemas of
its parts and the bounds of a number or of the length of a text. Values are checked by a validator,
which reports a breach. The validator of the program reports the first one, in the order in which
the schema states its rules.
-/

namespace QuoteDesk

open Number Text

/-- A type that a schema can ask for. -/
inductive SchemaType where
  | object
  | array
  | text
  | integer
  | number
  | null
deriving DecidableEq, Repr

def SchemaType.name : SchemaType → String
  | .object => "object"
  | .array => "array"
  | .text => "string"
  | .integer => "integer"
  | .number => "number"
  | .null => "null"

/-- Whether a value has a type. Truth values are no numbers; a binary number without a fraction is
a whole number. -/
def SchemaType.admits : SchemaType → Value → Bool
  | .object, .dict _ => true
  | .array, .list _ => true
  | .text, .text _ => true
  | .integer, .int _ => true
  | .integer, .float x => x.isWhole
  | .number, .int _ => true
  | .number, .float _ => true
  | .number, .decimal _ => true
  | .null, .null => true
  | _, _ => false

/-- What a value has to look like. -/
inductive Schema where
  | mk (types : List SchemaType) (required : List String) (properties : List (String × Schema))
      (items : Option Schema) (minimum maximum : Option Int) (nonEmpty : Bool)

namespace Schema

def ofTypes (types : List SchemaType) : Schema :=
  .mk types [] [] none none none false

/-- A text; it may have to be non-empty. -/
def ofText (nonEmpty : Bool) : Schema :=
  .mk [.text] [] [] none none none nonEmpty

/-- A number of a type within bounds. -/
def ofNumber (type : SchemaType) (minimum maximum : Option Int) : Schema :=
  .mk [type] [] [] none minimum maximum false

/-- A mapping with required names and schemas for some of its values. -/
def ofObject (required : List String) (properties : List (String × Schema)) : Schema :=
  .mk [.object] required properties none none none false

/-- A list whose items follow a schema. -/
def ofItems (items : Schema) : Schema :=
  .mk [.array] [] [] (some items) none none false

end Schema

/-! ## Breaches -/

/-- A step into a value. -/
inductive Step where
  | name (s : String)
  | index (n : Nat)
deriving DecidableEq, Repr

def Step.text : Step → String
  | .name s => s
  | .index n => decimalText n

/-- Where a value breaks its schema, and how. -/
structure Breach where
  path : List Step
  message : String
deriving DecidableEq, Repr

namespace Breach

/-- The breach seen from one step further out. -/
def within (step : Step) (breach : Breach) : Breach :=
  { breach with path := step :: breach.path }

/-- The breach as one line: its path, if it has one, and what is wrong. -/
def line (breach : Breach) : String :=
  if breach.path.isEmpty then breach.message
  else ".".intercalate (breach.path.map Step.text) ++ ": " ++ breach.message

end Breach

namespace Schema

/-- A breach of a value as a whole; the value is shown in front of what is wrong. -/
def breachOf (value : Value) (wrong : String) : Except Fault (Option Breach) := do
  let shown ← value.shown.mapError .number
  return some ⟨[], shown ++ wrong⟩

def typeBreach (types : List SchemaType) (value : Value) : Except Fault (Option Breach) :=
  if types.any fun type => type.admits value then .ok none
  else breachOf value
    (" is not of type " ++ ", ".intercalate (types.map fun type => quoted type.name))

/-- The breach of the required names: the first one that is missing. -/
def requiredBreach (required : List String) (value : Value) : Option Breach :=
  match value with
  | .dict entries =>
    (required.find? fun name => (entries.lookup name).isNone).map fun name =>
      ⟨[], quoted name ++ " is a required property"⟩
  | _ => none

def minimumBreach (minimum : Option Int) (value : Value) : Except Fault (Option Breach) :=
  match minimum with
  | none => .ok none
  | some bound =>
    if SchemaType.number.admits value then do
      if ← value.less (.int bound) then
        breachOf value s!" is less than the minimum of {bound}"
      else return none
    else .ok none

def maximumBreach (maximum : Option Int) (value : Value) : Except Fault (Option Breach) :=
  match maximum with
  | none => .ok none
  | some bound =>
    if SchemaType.number.admits value then do
      if ← value.greater (.int bound) then
        breachOf value s!" is greater than the maximum of {bound}"
      else return none
    else .ok none

def lengthBreach (nonEmpty : Bool) (value : Value) : Option Breach :=
  match value with
  | .text "" => if nonEmpty then some ⟨[], "'' should be non-empty"⟩ else none
  | _ => none

/-- The first breach among the items of a list, which are numbered from `index`. -/
def itemBreach (check : Value → Except Fault (Option Breach)) (index : Nat) :
    List Value → Except Fault (Option Breach)
  | [] => .ok none
  | value :: rest => do
    match ← check value with
    | some breach => return some (breach.within (.index index))
    | none => itemBreach check (index + 1) rest

mutual

/-- The first breach of a schema by a value. -/
def breach? : Schema → Value → Except Fault (Option Breach)
  | .mk types required properties items minimum maximum nonEmpty, value => do
    if let some breach ← typeBreach types value then return some breach
    if let some breach := requiredBreach required value then return some breach
    if let some breach ← propertyBreach properties value then return some breach
    if let some breach ← listBreach items value then return some breach
    if let some breach ← minimumBreach minimum value then return some breach
    if let some breach ← maximumBreach maximum value then return some breach
    return lengthBreach nonEmpty value

/-- The first breach of the schemas of the parts of a mapping. -/
def propertyBreach : List (String × Schema) → Value → Except Fault (Option Breach)
  | [], _ => .ok none
  | (name, schema) :: rest, value =>
    match value with
    | .dict entries =>
      match entries.lookup name with
      | none => propertyBreach rest (.dict entries)
      | some part => do
        match ← breach? schema part with
        | some breach => return some (breach.within (.name name))
        | none => propertyBreach rest (.dict entries)
    | _ => .ok none

def listBreach : Option Schema → Value → Except Fault (Option Breach)
  | none, _ => .ok none
  | some schema, value =>
    match value with
    | .list values => itemBreach (breach? schema) 0 values
    | _ => .ok none

end

end Schema

/-- A validator looks for a breach of a schema by a value. -/
structure Validator where
  breach? : Schema → Value → Except Fault (Option Breach)

/-- The validator of the program, which follows draft 7 of the schema language. -/
def Validator.draft7 : Validator := ⟨Schema.breach?⟩

end QuoteDesk
