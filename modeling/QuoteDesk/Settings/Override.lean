import QuoteDesk.Fault
import QuoteDesk.Json.Reader
import QuoteDesk.Settings.Basic
import QuoteDesk.Text.Blank
import QuoteDesk.Text.Lowercase

/-!
# Overrides

A setting can be overridden for one run by a text of the form `name=value`. The text of the value is
read as the kind of the setting asks. Flags of the environment are read by the same words.
-/

namespace QuoteDesk

open Number Text

namespace Override

def yesWords : List String := ["1", "true", "yes", "on", "debug"]

def noWords : List String := ["0", "false", "no", "off", "disabled"]

/-- Whether a text means yes; capitals and blanks around it do not matter. -/
def meansYes (source : String) : Bool :=
  yesWords.contains (lowercase (trimText source))

def readFlag (source : String) : Except Fault Value :=
  let word := lowercase (trimText source)
  if yesWords.contains word then .ok (.bool true)
  else if noWords.contains word then .ok (.bool false)
  else .error (.badValue ("Cannot coerce '" ++ source ++ "' to a boolean."))

def readWhole (source : String) : Except Fault Value :=
  match readInteger source with
  | .ok n => .ok (.int n)
  | .error fault => .error (.number fault)

def readReal (source : String) : Except Fault Value :=
  match Binary64.read? source with
  | some x => .ok (.float x)
  | none => .error (.badValue (Binary64.unreadable source))

def meansNothing (source : String) : Bool :=
  ["none", "null"].contains (lowercase source)

/-- Reads a mapping; an empty text is the empty mapping. Any JSON value is taken. -/
def readMapping (source : String) : Except Fault Value :=
  match Json.read (if source.isEmpty then "\x7b\x7d" else source) with
  | .ok value => .ok value
  | .error (.malformed _ _ _ _) => .error (.badValue "Dict overrides must be valid JSON objects")
  | .error fault => .error (.json fault)

def readValue (kind : SettingKind) (source : String) : Except Fault Value :=
  let trimmed := trimText source
  match kind with
  | .text => .ok (.text trimmed)
  | .flag => readFlag trimmed
  | .whole => readWhole trimmed
  | .real => readReal trimmed
  | .nothing => .ok .null
  | .mapping => if meansNothing trimmed then .ok .null else readMapping trimmed
  | .other => .ok (if meansNothing trimmed then .null else .text trimmed)

/-! ## Lists of overrides -/

/-- Values by the names of settings; of two values of one setting the last one stands. -/
abbrev Overrides := List (Setting × Value)

/-- Replaces the value of a setting in place, or puts it at the end. -/
def put (overrides : Overrides) (setting : Setting) (value : Value) : Overrides :=
  match overrides with
  | [] => [(setting, value)]
  | (other, old) :: rest =>
    if other = setting then (setting, value) :: rest else (other, old) :: put rest setting value

/-- The name and the value that a text gives, split at its first equals sign. -/
def split? (entry : String) : Option (String × String) :=
  let chars := entry.toList
  if chars.contains '=' then
    some (String.ofList (chars.takeWhile (· != '=')),
      String.ofList ((chars.dropWhile (· != '=')).drop 1))
  else none

def readEntry (entry : String) : Except Fault (Setting × Value) := do
  let some (name, source) := split? entry
    | throw (.badValue ("Override '" ++ entry ++ "' must use KEY=VALUE syntax."))
  let name := trimText name
  if name.isEmpty then throw (.badValue "Override is missing a field name.")
  let some setting := Setting.ofName? name
    | throw (.badValue ("Unknown setting '" ++ name ++ "'."))
  return (setting, ← readValue setting.kind source)

/-- Reads overrides one after the other, up to the first one that is refused. -/
def readAll (entries : List String) : Except Fault Overrides :=
  entries.foldlM (fun overrides entry => do
    let (setting, value) ← readEntry entry
    return put overrides setting value) []

end Override

end QuoteDesk
