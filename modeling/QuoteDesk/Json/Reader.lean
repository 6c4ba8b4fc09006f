import QuoteDesk.Value

/-!
# Reading JSON

A text is read from left to right; the first character that cannot go on is reported with its line
and column. Beside the standard the names `NaN`, `Infinity` and `-Infinity` are numbers. Of
repeated names the last value counts, at the place of the first. Whole numbers are exact up to
4300 digits. Half a surrogate pair stands for no character and is read as U+FFFD.
-/

namespace QuoteDesk.Json

open Number Text

/-! ## Faults -/

/-- What is wrong at a place of a text. -/
inductive Problem where
  | valueExpected
  | nameExpected
  | colonExpected
  | commaExpected
  | extraData
  | unterminatedText
  | controlCharacter
  | unknownEscape
  | badCodeEscape
  | byteOrderMark
deriving DecidableEq, Repr

def Problem.wording : Problem → String
  | .valueExpected => "Expecting value"
  | .nameExpected => "Expecting property name enclosed in double quotes"
  | .colonExpected => "Expecting ':' delimiter"
  | .commaExpected => "Expecting ',' delimiter"
  | .extraData => "Extra data"
  | .unterminatedText => "Unterminated string starting at"
  | .controlCharacter => "Invalid control character at"
  | .unknownEscape => "Invalid \\escape"
  | .badCodeEscape => "Invalid \\uXXXX escape"
  | .byteOrderMark => "Unexpected UTF-8 BOM (decode using utf-8-sig)"

/-- Why a text is not read: a problem at an index, a number of too many digits, or brackets
nested too deeply. -/
inductive Refusal where
  | problem (what : Problem) (index : Nat)
  | number (fault : IntegerFault)
  | tooDeep
deriving DecidableEq, Repr

/-- A refusal with the place of the problem as line and column, both counted from one. -/
inductive Fault where
  | malformed (what : Problem) (line column index : Nat)
  | number (fault : IntegerFault)
  | tooDeep
deriving DecidableEq, Repr

/-- The line of an index, counted from one. -/
def lineOf (chars : List Char) (index : Nat) : Nat :=
  (chars.take index).count '\n' + 1

/-- The column of an index in its line, counted from one. -/
def columnOf (chars : List Char) (index : Nat) : Nat :=
  ((chars.take index).reverse.takeWhile (· ≠ '\n')).length + 1

/-- Adds line and column to a refusal. -/
def Refusal.located (chars : List Char) : Refusal → Fault
  | .problem what index => .malformed what (lineOf chars index) (columnOf chars index) index
  | .number fault => .number fault
  | .tooDeep => .tooDeep

def Fault.message : Fault → String
  | .malformed what line column index => s!"{what.wording}: line {line} column {column} (char {index})"
  | .number fault => fault.message
  | .tooDeep => "maximum recursion depth exceeded"

/-! ## Places -/

/-- What is left of a text, and where it starts. -/
structure Cursor where
  index : Nat
  rest : List Char

def isSpace (c : Char) : Bool :=
  c == ' ' || c == '\t' || c == '\n' || c == '\r'

def Cursor.skip (cursor : Cursor) (count : Nat) : Cursor :=
  ⟨cursor.index + count, cursor.rest.drop count⟩

def Cursor.skipSpace (cursor : Cursor) : Cursor :=
  cursor.skip (cursor.rest.takeWhile isSpace).length

/-! ## Texts -/

def hexValue? (c : Char) : Option Nat :=
  if isAsciiDigit c then some (c.toNat - '0'.toNat)
  else if 'a' ≤ c && c ≤ 'f' then some (c.toNat - 'a'.toNat + 10)
  else if 'A' ≤ c && c ≤ 'F' then some (c.toNat - 'A'.toNat + 10)
  else none

/-- The number that four hexadecimal digits write. -/
def hexWord? (digits : List Char) : Option Nat :=
  digits.foldl (fun value digit => do return 16 * (← value) + (← hexValue? digit)) (some 0)

/-- The character for one letter behind a backslash. -/
def letterEscape? : Char → Option Char
  | '"' => some '"'
  | '\\' => some '\\'
  | '/' => some '/'
  | 'b' => some '\x08'
  | 'f' => some '\x0c'
  | 'n' => some '\n'
  | 'r' => some '\r'
  | 't' => some '\t'
  | _ => none

/-- A character of a 16-bit word; half a surrogate pair gives U+FFFD. -/
def unitChar (word : Nat) : Char :=
  if 0xD800 ≤ word && word ≤ 0xDFFF then '\uFFFD' else Char.ofNat word

/-- Reads what follows a backslash that stands at `index`: the character meant, and how many
characters write it. `start` is the place of the opening quote. -/
def readEscape (start index : Nat) (rest : List Char) : Except Refusal (Char × Nat) :=
  match rest with
  | [] => .error (.problem .unterminatedText start)
  | 'u' :: code =>
    if code.length < 5 then .error (.problem .badCodeEscape (index + 1))
    else
      match hexWord? (code.take 4) with
      | none => .error (.problem .badCodeEscape (index + 1))
      | some word =>
        let more := code.drop 4
        if 0xD800 ≤ word && word ≤ 0xDBFF && 6 < more.length && more.take 2 = ['\\', 'u'] then
          match hexWord? ((more.drop 2).take 4) with
          | none => .error (.problem .badCodeEscape (index + 7))
          | some low =>
            if 0xDC00 ≤ low && low ≤ 0xDFFF then
              .ok (Char.ofNat (0x10000 + (word - 0xD800) * 0x400 + (low - 0xDC00)), 11)
            else .ok (unitChar word, 5)
        else .ok (unitChar word, 5)
  | c :: _ =>
    match letterEscape? c with
    | some meant => .ok (meant, 1)
    | none => .error (.problem .unknownEscape index)

/-- Reads a text behind its opening quote. `skip` characters belong to an escape read before. -/
def readText (start index skip : Nat) (taken : List Char) :
    List Char → Except Refusal (String × Cursor)
  | [] => .error (.problem .unterminatedText start)
  | c :: rest =>
    if 0 < skip then readText start (index + 1) (skip - 1) taken rest
    else if c = '"' then .ok (String.ofList taken.reverse, ⟨index + 1, rest⟩)
    else if c = '\\' then
      match readEscape start index rest with
      | .error refusal => .error refusal
      | .ok (meant, size) => readText start (index + 1) size (meant :: taken) rest
    else if c.toNat < 0x20 then .error (.problem .controlCharacter index)
    else readText start (index + 1) 0 (c :: taken) rest

/-! ## Numbers -/

/-- The digits of the whole part of a number: one zero, or digits that start with another one. -/
def wholeDigits : List Char → List Char
  | '0' :: _ => ['0']
  | rest => rest.takeWhile isAsciiDigit

/-- The point and the digits behind it, if a digit follows the point. -/
def fractionPart : List Char → List Char
  | '.' :: rest => match rest.takeWhile isAsciiDigit with
    | [] => []
    | digits => '.' :: digits
  | _ => []

/-- The mark, the sign and the digits of a power of ten, if there is a digit. -/
def powerPart : List Char → List Char
  | mark :: rest =>
    if mark = 'e' || mark = 'E' then
      let sign := match rest with
        | '+' :: _ => ['+']
        | '-' :: _ => ['-']
        | _ => []
      match (rest.drop sign.length).takeWhile isAsciiDigit with
      | [] => []
      | digits => mark :: sign ++ digits
    else []
  | [] => []

/-- Reads a number: a whole one exactly, any other as the nearest binary number. -/
def readNumber (cursor : Cursor) : Except Refusal (Value × Cursor) :=
  let sign := if cursor.rest.head? = some '-' then ['-'] else []
  let whole := wholeDigits (cursor.rest.drop sign.length)
  if whole.isEmpty then .error (.problem .valueExpected cursor.index)
  else
    let behind := cursor.rest.drop (sign.length + whole.length)
    let fraction := fractionPart behind
    let power := powerPart (behind.drop fraction.length)
    let next := cursor.skip (sign.length + whole.length + fraction.length + power.length)
    if fraction.isEmpty && power.isEmpty then
      if digitLimit < whole.length then .error (.number (.tooManyDigits whole.length))
      else .ok (.int (signedValue (!sign.isEmpty) whole), next)
    else
      match Binary64.readWord (sign ++ whole ++ fraction ++ power) with
      | some x => .ok (.float x, next)
      | none => .error (.problem .valueExpected cursor.index)

/-! ## Values -/

/-- The words that stand for a value. -/
def words : List (List Char × Value) :=
  [(['n', 'u', 'l', 'l'], .null),
    (['t', 'r', 'u', 'e'], .bool true),
    (['f', 'a', 'l', 's', 'e'], .bool false),
    (['N', 'a', 'N'], .float .notANumber),
    (['I', 'n', 'f', 'i', 'n', 'i', 't', 'y'], .float (.infinite false)),
    (['-', 'I', 'n', 'f', 'i', 'n', 'i', 't', 'y'], .float (.infinite true))]

def readScalar (cursor : Cursor) : Except Refusal (Value × Cursor) :=
  match words.find? fun word => word.1.isPrefixOf cursor.rest with
  | some (word, value) => .ok (value, cursor.skip word.length)
  | none => readNumber cursor

/-- How deeply brackets may be nested. -/
def depthLimit : Nat := 985

mutual

/-- Reads a value at the cursor, inside `depth` brackets. -/
def readValue (fuel depth : Nat) (cursor : Cursor) : Except Refusal (Value × Cursor) :=
  match fuel with
  | 0 => .error .tooDeep
  | fuel + 1 =>
    match cursor.rest with
    | '"' :: rest => do
      let (s, next) ← readText cursor.index (cursor.index + 1) 0 [] rest
      return (.text s, next)
    | '{' :: _ =>
      if depthLimit ≤ depth then .error .tooDeep
      else
        let inner := (cursor.skip 1).skipSpace
        if inner.rest.head? = some '}' then .ok (.dict [], inner.skip 1)
        else do
          let (entries, next) ← readEntries fuel (depth + 1) [] inner
          return (.dict entries, next)
    | '[' :: _ =>
      if depthLimit ≤ depth then .error .tooDeep
      else
        let inner := (cursor.skip 1).skipSpace
        if inner.rest.head? = some ']' then .ok (.list [], inner.skip 1)
        else do
          let (items, next) ← readItems fuel (depth + 1) [] inner
          return (.list items, next)
    | _ => readScalar cursor

/-- Reads the items of a list up to its closing bracket; the items read before stand in reverse
order. -/
def readItems (fuel depth : Nat) (before : List Value) (cursor : Cursor) :
    Except Refusal (List Value × Cursor) :=
  match fuel with
  | 0 => .error .tooDeep
  | fuel + 1 => do
    let (item, next) ← readValue fuel depth cursor
    let next := next.skipSpace
    match next.rest with
    | ']' :: _ => return ((item :: before).reverse, next.skip 1)
    | ',' :: _ => readItems fuel depth (item :: before) (next.skip 1).skipSpace
    | _ => .error (.problem .commaExpected next.index)

/-- Reads the entries of a mapping up to its closing brace. -/
def readEntries (fuel depth : Nat) (before : Entries) (cursor : Cursor) :
    Except Refusal (Entries × Cursor) :=
  match fuel with
  | 0 => .error .tooDeep
  | fuel + 1 =>
    match cursor.rest with
    | '"' :: rest => do
      let (name, next) ← readText cursor.index (cursor.index + 1) 0 [] rest
      let next := next.skipSpace
      if next.rest.head? = some ':' then
        let (value, next) ← readValue fuel depth (next.skip 1).skipSpace
        let next := next.skipSpace
        let entries := before.put name value
        match next.rest with
        | '}' :: _ => return (entries, next.skip 1)
        | ',' :: _ => readEntries fuel depth entries (next.skip 1).skipSpace
        | _ => .error (.problem .commaExpected next.index)
      else .error (.problem .colonExpected next.index)
    | _ => .error (.problem .nameExpected cursor.index)

end

/-- Reads a value that fills a whole text. Every step of the reading takes a character, so the
text's length bounds the steps. -/
def readWhole (chars : List Char) : Except Refusal Value :=
  if chars.head? = some '\uFEFF' then .error (.problem .byteOrderMark 0)
  else do
    let (value, next) ← readValue (2 * chars.length + 2) 0 (Cursor.skipSpace ⟨0, chars⟩)
    let next := next.skipSpace
    if next.rest.isEmpty then return value else .error (.problem .extraData next.index)

/-- Reads a value that fills a whole text. -/
def read (source : String) : Except Fault Value :=
  (readWhole source.toList).mapError (Refusal.located source.toList)

end QuoteDesk.Json
