import QuoteDesk.Directive.Reason
import QuoteDesk.Json.Reader
import QuoteDesk.Json.Writer
import QuoteDesk.Session.Fault
import QuoteDesk.Text.Utf8

/-!
# Faults

Everything that can go wrong at the desk is a cause of this type. A cause has the name of its kind
and a message; both may be shown to those who run the desk, never to those who talk to it.
-/

namespace QuoteDesk

open Number Text

/-- Why a file cannot be used. -/
inductive FileFault where
  | missing (path : String)
  | isDirectory (path : String)
  | notDirectory (path : String)
  | exists (path : String)
  | ontoDirectory (path target : String)
deriving DecidableEq, Repr

namespace FileFault

def kind : FileFault → String
  | .missing _ => "FileNotFoundError"
  | .isDirectory _ => "IsADirectoryError"
  | .notDirectory _ => "NotADirectoryError"
  | .exists _ => "FileExistsError"
  | .ontoDirectory _ _ => "IsADirectoryError"

def message : FileFault → String
  | .missing path => "[Errno 2] No such file or directory: " ++ quoted path
  | .isDirectory path => "[Errno 21] Is a directory: " ++ quoted path
  | .notDirectory path => "[Errno 20] Not a directory: " ++ quoted path
  | .exists path => "[Errno 17] File exists: " ++ quoted path
  | .ontoDirectory path target => "[Errno 21] Is a directory: " ++ quoted path ++ " -> " ++ quoted target

end FileFault

/-- A cause of failure. -/
inductive Fault where
  /-- A command breaks a rule. -/
  | refusedCommand (reason : DropReason) (message : String)
  | session (fault : SessionFault)
  /-- A value is not what it has to be. -/
  | badValue (message : String)
  /-- A whole number cannot be read or written. -/
  | number (fault : IntegerFault)
  | json (fault : Json.Fault)
  | file (fault : FileFault)
  /-- Bytes are not UTF-8. -/
  | undecodable (fault : Utf8.Fault)
  /-- A text has characters, from `first` up to before `stop`, outside ASCII. -/
  | notAscii (source : List Char) (first stop : Nat)
  /-- A value has the wrong type. -/
  | wrongType (message : String)
  /-- A value lacks a part that was asked for. -/
  | missingPart (message : String)
  | indexOutOfRange (message : String)
  | keyMissing (shownKey : String)
  /-- An operation on decimals has no result. -/
  | arithmetic (fault : DecimalFault)
  /-- A binary number is too large for what was asked. -/
  | tooLarge (message : String)
  /-- The time for an answer is over. -/
  | timedOut
  /-- The turn was cancelled from outside. -/
  | cancelled
  /-- Another part failed and is known by the kind and the message of its failure. -/
  | reported (kind message : String)

namespace Fault

/-- The message of an operation on decimals without a result. -/
def arithmeticMessage : DecimalFault → String
  | .invalidOperation => "[<class 'decimal.InvalidOperation'>]"
  | .overflow => "[<class 'decimal.Overflow'>, <class 'decimal.Inexact'>, <class 'decimal.Rounded'>]"

def kind : Fault → String
  | .refusedCommand _ _ => "CommandValidationError"
  | .session fault => fault.kind.name
  | .badValue _ => "ValueError"
  | .number _ => "ValueError"
  | .json (.malformed _ _ _ _) => "JSONDecodeError"
  | .json (.number _) => "ValueError"
  | .json .tooDeep => "RecursionError"
  | .file fault => fault.kind
  | .undecodable _ => "UnicodeDecodeError"
  | .notAscii _ _ _ => "UnicodeEncodeError"
  | .wrongType _ => "TypeError"
  | .missingPart _ => "AttributeError"
  | .indexOutOfRange _ => "IndexError"
  | .keyMissing _ => "KeyError"
  | .arithmetic .invalidOperation => "InvalidOperation"
  | .arithmetic .overflow => "Overflow"
  | .tooLarge _ => "OverflowError"
  | .timedOut => "TimeoutError"
  | .cancelled => "CancelledError"
  | .reported kind _ => kind

/-- Where the characters stand that have no ASCII form, and which one a single one is. -/
def notAsciiMessage (source : List Char) (first stop : Nat) : String :=
  let place :=
    match (source.drop first).head?, stop - first with
    | some c, 1 => "character " ++ String.ofList (('\'' :: codePointEscape c.toNat) ++ ['\'']) ++
        s!" in position {first}"
    | _, _ => s!"characters in position {first}-{stop - 1}"
  "'ascii' codec can't encode " ++ place ++ ": ordinal not in range(128)"

/-- Where the bytes stand that are not UTF-8, and what is wrong with them. -/
def undecodableMessage (fault : Utf8.Fault) : String :=
  let place :=
    if fault.size = 1 then
      "byte 0x" ++ String.ofList (hexText 2 fault.byte.toNat) ++ s!" in position {fault.start}"
    else s!"bytes in position {fault.start}-{fault.start + fault.size - 1}"
  "'utf-8' codec can't decode " ++ place ++ ": " ++ fault.problem.wording

def message : Fault → String
  | .refusedCommand _ message => message
  | .session fault => fault.line
  | .badValue message => message
  | .number fault => fault.message
  | .json fault => fault.message
  | .file fault => fault.message
  | .undecodable fault => undecodableMessage fault
  | .notAscii source first stop => notAsciiMessage source first stop
  | .wrongType message => message
  | .missingPart message => message
  | .indexOutOfRange message => message
  | .keyMissing shownKey => shownKey
  | .arithmetic fault => arithmeticMessage fault
  | .tooLarge message => message
  | .timedOut => ""
  | .cancelled => ""
  | .reported _ message => message

/-- The cause as it is written into records: its kind and its message. -/
def line (fault : Fault) : String :=
  fault.kind ++ ": " ++ fault.message

/-- Whether the cause is a value that is not what it has to be. -/
def isBadValue (fault : Fault) : Bool :=
  ["CommandValidationError", "ValueError", "JSONDecodeError", "UnicodeDecodeError",
    "UnicodeEncodeError"].contains fault.kind

/-- The kinds of failure on the way to the model after which asking again may help. -/
def passingKinds : List String :=
  ["ReadTimeout", "ConnectTimeout", "WriteTimeout", "PoolTimeout", "TimeoutException", "APIError",
    "APIConnectionError", "APITimeoutError", "APIResponseValidationError", "APIStatusError",
    "RateLimitError", "AuthenticationError", "PermissionDeniedError", "BadRequestError",
    "NotFoundError", "ConflictError", "UnprocessableEntityError", "InternalServerError"]

def isPassing (fault : Fault) : Bool :=
  passingKinds.contains fault.kind

/-- A cause reported by another part. Some kinds have a wording of their own. -/
def ofReport (kind message : String) : Fault :=
  match SessionFaultKind.ofName? kind with
  | some .general => .reported kind message
  | some sessionKind => .session (.because sessionKind message [])
  | none =>
    if kind = "APITimeoutError" then .reported kind "Request timed out."
    else if kind = "KeyError" then .keyMissing (quoted message)
    else .reported kind message

end Fault

/-- A number fault as a cause. -/
instance : Coe IntegerFault Fault := ⟨.number⟩

end QuoteDesk
