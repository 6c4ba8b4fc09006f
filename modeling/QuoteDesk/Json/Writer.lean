import QuoteDesk.Value

/-!
# Writing JSON

A value is written on one line, or with every item on a line of its own. Characters outside ASCII
may be escaped and names may be sorted. Decimals, bytes and records have no form in JSON.
-/

namespace QuoteDesk.Json

open Number Text

/-- How a value is written. -/
structure Style where
  /-- The number of spaces that a nested line is moved in; without it all stands on one line. -/
  indent : Option Nat
  /-- Whether characters outside printable ASCII are escaped. -/
  onlyAscii : Bool
  /-- Whether the entries of a mapping are sorted by their names. -/
  sorted : Bool
deriving DecidableEq, Repr

/-- One line, all characters outside ASCII escaped, names in their order. -/
def Style.oneLine : Style := ⟨none, true, false⟩

/-- Nested lines moved in by two spaces, all characters outside ASCII escaped. -/
def Style.indented : Style := ⟨some 2, true, false⟩

/-- Why a value has no form in JSON. -/
inductive WriteFault where
  | unsupported (typeName : String)
  | number (fault : IntegerFault)
deriving DecidableEq, Repr

def WriteFault.message : WriteFault → String
  | .unsupported typeName => s!"Object of type {typeName} is not JSON serializable"
  | .number fault => fault.message

/-- A 16-bit word as an escape. -/
def unitEscape (word : Nat) : List Char :=
  '\\' :: 'u' :: hexText 4 word

def writtenChar (onlyAscii : Bool) (c : Char) : List Char :=
  if c = '"' then ['\\', '"']
  else if c = '\\' then ['\\', '\\']
  else if c = '\n' then ['\\', 'n']
  else if c = '\r' then ['\\', 'r']
  else if c = '\t' then ['\\', 't']
  else if c = '\x0c' then ['\\', 'f']
  else if c = '\x08' then ['\\', 'b']
  else if c.toNat < 0x20 then unitEscape c.toNat
  else if onlyAscii && 0x7F ≤ c.toNat then
    if c.toNat < 0x10000 then unitEscape c.toNat
    else
      let offset := c.toNat - 0x10000
      unitEscape (0xD800 + offset / 0x400) ++ unitEscape (0xDC00 + offset % 0x400)
  else [c]

def writtenText (onlyAscii : Bool) (s : String) : String :=
  String.ofList ('"' :: s.toList.flatMap (writtenChar onlyAscii) ++ ['"'])

/-- A binary number; those that are not finite are written by name. -/
def writtenFloat : Binary64 → String
  | .notANumber => "NaN"
  | .infinite negative => if negative then "-Infinity" else "Infinity"
  | x => x.write

/-- A new line that is moved in by a number of levels. -/
def newLine (width level : Nat) : String :=
  String.ofList ('\n' :: List.replicate (width * level) ' ')

/-- Written items between brackets, inside `level` other brackets. -/
def enclosed (style : Style) (level : Nat) (opening closing : String) (items : List String) : String :=
  if items.isEmpty then opening ++ closing
  else
    match style.indent with
    | none => opening ++ ", ".intercalate items ++ closing
    | some width =>
      opening ++ newLine width (level + 1) ++ ("," ++ newLine width (level + 1)).intercalate items ++
        newLine width level ++ closing

/-- Written entries in the order of the style. -/
def arranged (style : Style) (entries : List (String × String)) : List String :=
  let ordered :=
    if style.sorted then entries.mergeSort (fun x y => decide (x.1 ≤ y.1)) else entries
  ordered.map fun entry => writtenText style.onlyAscii entry.1 ++ ": " ++ entry.2

mutual

/-- Writes a value that stands inside `level` brackets. -/
def writeValue (style : Style) (level : Nat) : Value → Except WriteFault String
  | .null => .ok "null"
  | .bool b => .ok (if b then "true" else "false")
  | .int n => (writeInteger n).mapError .number
  | .float x => .ok (writtenFloat x)
  | .text s => .ok (writtenText style.onlyAscii s)
  | .list items => do
    return enclosed style level "[" "]" (← writeItems style (level + 1) items)
  | .dict entries => do
    return enclosed style level "\x7b" "\x7d"
      (arranged style (← writeEntries style (level + 1) entries))
  | .decimal _ => .error (.unsupported "Decimal")
  | .bytes _ => .error (.unsupported "bytes")
  | .record _ => .error (.unsupported "SimpleNamespace")

def writeItems (style : Style) (level : Nat) : List Value → Except WriteFault (List String)
  | [] => .ok []
  | item :: rest => do return (← writeValue style level item) :: (← writeItems style level rest)

def writeEntries (style : Style) (level : Nat) :
    List (String × Value) → Except WriteFault (List (String × String))
  | [] => .ok []
  | (name, value) :: rest => do
    return (name, ← writeValue style level value) :: (← writeEntries style level rest)

end

def write (style : Style) (value : Value) : Except WriteFault String :=
  writeValue style 0 value

end QuoteDesk.Json
