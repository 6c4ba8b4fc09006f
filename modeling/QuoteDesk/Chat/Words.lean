/-!
# Words of a command line

A line is split at blanks. Quotes keep blanks in a word, and also make an empty word; a backslash
takes the next character as it is, inside double quotes only a double quote or a backslash.
-/

namespace QuoteDesk.CommandLine

/-- Why a line has no words. -/
inductive WordFault where
  | openQuote
  | nothingEscaped
deriving DecidableEq, Repr

def WordFault.message : WordFault → String
  | .openQuote => "No closing quotation"
  | .nothingEscaped => "No escaped character"

/-- Where in a line the reading is: outside of quotes, inside quotes of a kind, or behind a
backslash, which may itself be inside quotes. -/
inductive Place where
  | bare
  | inside (quote : Char)
  | escaped (around : Option Char)
deriving DecidableEq, Repr

def isSeparator (c : Char) : Bool :=
  c == ' ' || c == '\t' || c == '\r' || c == '\n'

/-- What a backslash and the character behind it stand for, in reverse order. -/
def escapedChars (around : Option Char) (c : Char) : List Char :=
  match around with
  | none => [c]
  | some quote => if c = '\\' || c = quote then [c] else [c, '\\']

/-- Reads words. `before` are the words read, last first; `word` is the word begun, in reverse. -/
def readWords (place : Place) (before : List String) (word : Option (List Char)) :
    List Char → Except WordFault (List String)
  | [] =>
    match place, word with
    | .bare, none => .ok before.reverse
    | .bare, some word => .ok (String.ofList word.reverse :: before).reverse
    | .inside _, _ => .error .openQuote
    | .escaped _, _ => .error .nothingEscaped
  | c :: rest =>
    let begun := word.getD []
    match place with
    | .bare =>
      if isSeparator c then
        match word with
        | none => readWords .bare before none rest
        | some word => readWords .bare (String.ofList word.reverse :: before) none rest
      else if c = '\\' then readWords (.escaped none) before (some begun) rest
      else if c = '"' || c = '\'' then readWords (.inside c) before (some begun) rest
      else readWords .bare before (some (c :: begun)) rest
    | .inside quote =>
      if c = quote then readWords .bare before (some begun) rest
      else if c = '\\' && quote = '"' then readWords (.escaped (some quote)) before (some begun) rest
      else readWords (.inside quote) before (some (c :: begun)) rest
    | .escaped around =>
      let next := match around with
        | none => Place.bare
        | some quote => .inside quote
      readWords next before (some (escapedChars around c ++ begun)) rest

def words (line : List Char) : Except WordFault (List String) :=
  readWords .bare [] none line

end QuoteDesk.CommandLine
