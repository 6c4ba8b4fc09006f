import QuoteDesk.Text.Digit
import QuoteDesk.Text.Quoted

/-!
# Arguments

The program is called with switches, some of which take a value. A long switch may be shortened as
long as no other one starts the same way, and its value may follow as the next argument or behind an
equals sign. Arguments that are neither switches nor values are refused together at the end.
-/

namespace QuoteDesk.CommandLine

open Text

inductive Switch where
  | help
  | inventory
  | dumpSettings
  | settingsPath
  | set
deriving DecidableEq, Repr

namespace Switch

def all : List Switch := [.help, .inventory, .dumpSettings, .settingsPath, .set]

def forms : Switch → List String
  | .help => ["-h", "--help"]
  | .inventory => ["--inventory"]
  | .dumpSettings => ["--dump-settings"]
  | .settingsPath => ["--settings-path"]
  | .set => ["--set"]

def takesValue : Switch → Bool
  | .inventory => true
  | .settingsPath => true
  | .set => true
  | _ => false

/-- How messages name a switch. -/
def label (switch : Switch) : String :=
  "/".intercalate switch.forms

def allForms : List (String × Switch) :=
  all.flatMap fun switch => switch.forms.map fun form => (form, switch)

def ofForm? (form : String) : Option Switch :=
  allForms.lookup form

end Switch

/-- Why arguments are refused. -/
inductive ArgumentFault where
  | ambiguous (argument : String) (forms : List String)
  | noValue (switch : Switch)
  | needlessValue (switch : Switch) (value : String)
  | unrecognized (arguments : List String)
deriving DecidableEq, Repr

def ArgumentFault.message : ArgumentFault → String
  | .ambiguous argument forms =>
    s!"ambiguous option: {argument} could match " ++ ", ".intercalate forms
  | .noValue switch => s!"argument {switch.label}: expected one argument"
  | .needlessValue switch value =>
    s!"argument {switch.label}: ignored explicit argument " ++ quoted value
  | .unrecognized arguments => "unrecognized arguments: " ++ " ".intercalate arguments

/-! ## Reading single arguments -/

/-- A value inside the argument of a switch: behind an equals sign, or right behind a short form. -/
inductive Attached where
  | nothing
  | behindSign (value : String)
  | joined (value : String)
deriving DecidableEq, Repr

inductive Argument where
  | switched (which : Switch) (attached : Attached)
  /-- It looks like a switch, but there is none of this form. -/
  | unknown (source : String)
  | plain (source : String)
  /-- It says that no more switches follow. -/
  | divider
deriving DecidableEq, Repr

namespace Argument

/-- Whether a text is a negative number: a sign, digits and perhaps a point before the last ones. A
line feed may follow. -/
def isNegativeNumber (chars : List Char) : Bool :=
  let isDigit (c : Char) : Bool := (digitValue? c).isSome
  match chars with
  | '-' :: rest =>
    let body := if rest.getLast? = some '\n' then rest.dropLast else rest
    let behind := body.dropWhile isDigit
    let fraction := behind.drop 1
    (!body.isEmpty && behind.isEmpty) ||
      (behind.head? = some '.' && !fraction.isEmpty && fraction.all isDigit)
  | _ => false

/-- A form that an argument may stand for, with its value. -/
structure Candidate where
  form : String
  switch : Switch
  attached : Attached

/-- The text before the first equals sign, and what follows it. -/
def splitSign (chars : List Char) : List Char × Attached :=
  if chars.contains '=' then
    (chars.takeWhile (· != '='), .behindSign (String.ofList ((chars.dropWhile (· != '=')).drop 1)))
  else (chars, .nothing)

/-- The forms that an argument with two signs at its front shortens. -/
def longCandidates (chars : List Char) : List Candidate :=
  let (start, attached) := splitSign chars
  (Switch.allForms.filter fun entry => start.isPrefixOf entry.1.toList).map fun (form, switch) =>
    ⟨form, switch, attached⟩

/-- The short forms that an argument with one sign at its front starts with, and the forms that it
shortens. -/
def shortCandidates (chars : List Char) : List Candidate :=
  Switch.allForms.filterMap fun (form, switch) =>
    if form.toList = chars.take 2 then some ⟨form, switch, .joined (String.ofList (chars.drop 2))⟩
    else if chars.isPrefixOf form.toList then some ⟨form, switch, .nothing⟩
    else none

/-- The forms that an argument may stand for. -/
def candidates (chars : List Char) : List Candidate :=
  if chars.take 2 = ['-', '-'] then longCandidates chars else shortCandidates chars

/-- Reads an argument that is no form by itself, nor one with a value behind a sign. -/
def readOther (source : String) : Except ArgumentFault Argument :=
  let chars := source.toList
  match candidates chars with
  | [candidate] => .ok (.switched candidate.switch candidate.attached)
  | [] =>
    .ok (if isNegativeNumber chars || chars.contains ' ' then .plain source else .unknown source)
  | several => .error (.ambiguous source (several.map Candidate.form))

/-- Reads an argument in front of a divider. -/
def read (source : String) : Except ArgumentFault Argument :=
  let chars := source.toList
  if chars.head? ≠ some '-' then .ok (.plain source)
  else
    match Switch.ofForm? source with
    | some switch => .ok (.switched switch .nothing)
    | none =>
      if chars.length = 1 then .ok (.plain source)
      else
        let (form, attached) := splitSign chars
        match attached, Switch.ofForm? (String.ofList form) with
        | .behindSign _, some switch => .ok (.switched switch attached)
        | _, _ => readOther source

/-- Reads arguments; behind a divider all are plain. -/
def readAll : List String → Except ArgumentFault (List Argument)
  | [] => .ok []
  | source :: rest =>
    if source = "--" then .ok (.divider :: rest.map .plain)
    else do return (← read source) :: (← readAll rest)

end Argument

/-! ## Reading a call -/

/-- What a call asks for. -/
structure Request where
  inventory : Option String
  dumpSettings : Bool
  settingsPath : Option String
  overrides : List String
deriving DecidableEq, Repr

def Request.plain : Request := ⟨none, false, none, []⟩

def Request.take (request : Request) (switch : Switch) (value : String) : Request :=
  match switch with
  | .help => request
  | .inventory => { request with inventory := some value }
  | .dumpSettings => { request with dumpSettings := true }
  | .settingsPath => { request with settingsPath := some value }
  | .set => { request with overrides := request.overrides ++ [value] }

/-- What a call leads to. -/
inductive Call where
  | run (request : Request)
  | help
  | refused (fault : ArgumentFault)
deriving DecidableEq, Repr

/-- What is joined to the short form of help: further short forms may be, a value may not. -/
def joinedHelp : List Char → Call
  | [] => .help
  | '-' :: rest => .refused (.needlessValue .help (String.ofList ('-' :: rest)))
  | 'h' :: '=' :: rest => .refused (.needlessValue .help (String.ofList rest))
  | 'h' :: rest => joinedHelp rest
  | _ => .help

/-- What a switch without a value leads to, if that ends the reading. -/
def endOf? (switch : Switch) (attached : Attached) : Option Call :=
  match switch, attached with
  | .help, .nothing => some .help
  | .help, .joined source => some (joinedHelp source.toList)
  | switch, .behindSign value => some (.refused (.needlessValue switch value))
  | switch, .joined value => some (.refused (.needlessValue switch value))
  | _, .nothing => none

/-- The value of a switch: the one inside its argument, or the plain argument behind it. -/
def valueOf? (attached : Attached) (rest : List Argument) : Option (String × List Argument) :=
  match attached, rest with
  | .behindSign value, rest => some (value, rest)
  | .joined value, rest => some (value, rest)
  | .nothing, .plain value :: rest => some (value, rest)
  | .nothing, _ => none

theorem valueOf?_length {attached : Attached} {rest left : List Argument} {value : String}
    (found : valueOf? attached rest = some (value, left)) : left.length ≤ rest.length := by
  unfold valueOf? at found
  split at found
  · cases found
    exact Nat.le_refl _
  · cases found
    exact Nat.le_refl _
  · cases found
    exact Nat.le_succ _
  · cases found

/-- Reads a call; `strange` are the arguments that nothing asked for, in reverse order. -/
def consume (request : Request) (strange : List String) (arguments : List Argument) : Call :=
  match arguments with
  | [] =>
    if strange.isEmpty then .run request else .refused (.unrecognized strange.reverse)
  | .plain source :: rest => consume request (source :: strange) rest
  | .unknown source :: rest => consume request (source :: strange) rest
  | .divider :: rest => consume request ("--" :: strange) rest
  | .switched switch attached :: rest =>
    if switch.takesValue then
      match _found : valueOf? attached rest with
      | some (value, left) => consume (request.take switch value) strange left
      | none => .refused (.noValue switch)
    else
      match endOf? switch attached with
      | some call => call
      | none => consume (request.take switch "") strange rest
termination_by arguments.length
decreasing_by
  · exact Nat.lt_succ_self _
  · exact Nat.lt_succ_self _
  · exact Nat.lt_succ_self _
  · exact Nat.lt_succ_of_le (valueOf?_length _found)
  · exact Nat.lt_succ_self _

def read (arguments : List String) : Call :=
  match Argument.readAll arguments with
  | .error fault => .refused fault
  | .ok arguments => consume .plain [] arguments

/-! ## Texts -/

def usage : String :=
  "usage: quotewise [-h] [--inventory PATH] [--dump-settings]\n" ++
  "                 [--settings-path PATH] [--set KEY=VALUE]\n"

def refusal (fault : ArgumentFault) : String :=
  usage ++ "quotewise: error: " ++ fault.message ++ "\n"

def helpText : String :=
  usage ++
  "\nChat with the quoting assistant or inspect its configuration.\n\n" ++
  "options:\n" ++
  "  -h, --help            show this help message and exit\n" ++
  "  --inventory PATH      JSON inventory file (a list of items or \x7b\"inventory\":\n" ++
  "                        [...]\x7d).\n" ++
  "  --dump-settings       Print the effective settings payload (with secrets\n" ++
  "                        redacted) and exit.\n" ++
  "  --settings-path PATH  Override the default ~/.quotewise/settings.json path.\n" ++
  "  --set KEY=VALUE       Override persisted settings for this run (repeatable).\n"

end QuoteDesk.CommandLine
