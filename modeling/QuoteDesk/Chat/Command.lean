import QuoteDesk.Chat.Words
import QuoteDesk.Text.Blank
import QuoteDesk.Text.Lowercase

/-!
# Commands typed into the chat

A line that starts with a slash, two colons or an exclamation mark is a command and never reaches
the model. The three marks mean the same.
-/

namespace QuoteDesk

open Text

/-- What a typed command asks for. -/
inductive ChatCommand where
  | showQuote (asJson : Bool)
  | addBom
  | dismissBom
  | help
  | quit
deriving DecidableEq, Repr

/-- A typed command with the line that it was read from, trimmed. -/
structure ChatRequest where
  command : ChatCommand
  raw : String
deriving DecidableEq, Repr

/-- Why a line that is marked as a command is none. -/
inductive ChatFault where
  | unreadable (fault : CommandLine.WordFault)
  | noVerb
  | unknownVerb (verb : String)
  | noArguments (verb : String)
  | noBomAction
  | unknownBomAction (action : String)
  | noBomArguments (action : String)
  | unknownFlag (flag : String)
deriving DecidableEq, Repr

def ChatFault.message : ChatFault → String
  | .unreadable fault => "Unable to parse manual command: " ++ fault.message
  | .noVerb => "Manual command is missing a verb. Try /help."
  | .unknownVerb verb => "Unknown manual command '" ++ verb ++ "'. Try /help."
  | .noArguments verb => "/" ++ verb ++ " takes no arguments"
  | .noBomAction => "Usage: /bom add | /bom dismiss"
  | .unknownBomAction action => "Unknown BOM action '" ++ action ++ "'. Use /bom add or /bom dismiss."
  | .noBomArguments action => "/bom " ++ action ++ " takes no further arguments"
  | .unknownFlag flag => "Unknown quote flag '" ++ flag ++ "'"

namespace ChatCommand

def name : ChatCommand → String
  | .showQuote _ => "quote"
  | .addBom => "bom_add"
  | .dismissBom => "bom_dismiss"
  | .help => "help"
  | .quit => "quit"

def helpText : String :=
  "Commands:\n" ++
  "  /quote [--json]   Show the current quote\n" ++
  "  /bom add          Add the pending bill of materials to the quote\n" ++
  "  /bom dismiss      Discard the pending bill of materials\n" ++
  "  /help             Show this help\n" ++
  "  /quit             Leave the session"

/-! ## Reading a command -/

/-- The marks with which a command starts. -/
def marks : List (List Char) := [['/'], [':', ':'], ['!']]

/-- What follows the mark at the start of a trimmed line. -/
def behindMark? (line : List Char) : Option (List Char) :=
  let candidate := trimStart isBlank line
  marks.findSome? fun mark =>
    if mark.isPrefixOf candidate then some (trimStart isBlank (candidate.drop mark.length)) else none

def readFlags (asJson : Bool) : List String → Except ChatFault ChatCommand
  | [] => .ok (.showQuote asJson)
  | flag :: rest =>
    if ["--json", "--as-json"].contains (lowercase flag) then readFlags true rest
    else .error (.unknownFlag flag)

def readBomAction : List String → Except ChatFault ChatCommand
  | [] => .error .noBomAction
  | word :: rest =>
    let action := lowercase word
    let command :=
      if ["add", "accept"].contains action then some addBom
      else if ["dismiss", "discard"].contains action then some dismissBom
      else none
    match command with
    | none => .error (.unknownBomAction action)
    | some command => if rest.isEmpty then .ok command else .error (.noBomArguments action)

/-- A verb without arguments. -/
def alone (command : ChatCommand) (verb : String) (rest : List String) : Except ChatFault ChatCommand :=
  if rest.isEmpty then .ok command else .error (.noArguments verb)

def ofWords : List String → Except ChatFault ChatCommand
  | [] => .error .noVerb
  | word :: rest =>
    let verb := lowercase word
    if verb = "bom" then readBomAction rest
    else if ["quote", "q"].contains verb then readFlags false rest
    else if ["help", "h", "?"].contains verb then alone help verb rest
    else if ["quit", "exit"].contains verb then alone quit verb rest
    else .error (.unknownVerb verb)

def read (line : List Char) : Except ChatFault ChatCommand :=
  match CommandLine.words line with
  | .error fault => .error (.unreadable fault)
  | .ok words => ofWords words

end ChatCommand

namespace ChatRequest

def isMarked (line : String) : Bool :=
  (ChatCommand.behindMark? (trim line.toList)).isSome

/-- Reads a line; one without a mark is no command. -/
def read (line : String) : Except ChatFault (Option ChatRequest) :=
  match ChatCommand.behindMark? (trim line.toList) with
  | none => .ok none
  | some body => (ChatCommand.read body).map fun command => some ⟨command, trimText line⟩

end ChatRequest

end QuoteDesk
