import QuoteDesk.Value

/-!
# Faults of a session

A session refuses a message, or an assistant behind it fails. Each fault has a code that programs
read, a message that people read, and details.
-/

namespace QuoteDesk

/-- What kind of fault a session reports. -/
inductive SessionFaultKind where
  | turnInProgress
  | invalidInput
  | noPendingBom
  | collaborator
  | analysisPayload
  /-- A fault of no narrower kind. -/
  | general
deriving DecidableEq, Repr

namespace SessionFaultKind

def name : SessionFaultKind → String
  | .turnInProgress => "TurnInProgressError"
  | .invalidInput => "InvalidInputError"
  | .noPendingBom => "NoPendingBomError"
  | .collaborator => "CollaboratorError"
  | .analysisPayload => "AnalysisPayloadError"
  | .general => "SessionError"

/-- The code that programs read, unless another one is given. -/
def code : SessionFaultKind → String
  | .turnInProgress => "turn_in_progress"
  | .invalidInput => "invalid_input"
  | .noPendingBom => "no_pending_bom"
  | .collaborator => "collaborator_failure"
  | .analysisPayload => "analysis_payload_invalid"
  | .general => ""

/-- The message, unless another one is given. -/
def wording : SessionFaultKind → String
  | .turnInProgress => "A turn is already in progress for this session"
  | .invalidInput => "Message rejected"
  | .noPendingBom => "There is no bill of materials awaiting review"
  | .collaborator => "Assistant request failed"
  | .analysisPayload => "Building analysis payload is invalid"
  | .general => ""

/-- Whether the fault lies with the assistant; a bad analysis is one such fault. -/
def isCollaborator : SessionFaultKind → Bool
  | .collaborator => true
  | .analysisPayload => true
  | _ => false

def all : List SessionFaultKind :=
  [.turnInProgress, .invalidInput, .noPendingBom, .collaborator, .analysisPayload, .general]

def ofName? (name : String) : Option SessionFaultKind :=
  all.find? fun kind => kind.name = name

end SessionFaultKind

structure SessionFault where
  kind : SessionFaultKind
  code : String
  message : String
  details : Entries

namespace SessionFault

/-- A fault with the code and the message of its kind. -/
def plain (kind : SessionFaultKind) : SessionFault :=
  ⟨kind, kind.code, kind.wording, []⟩

/-- A fault with the code of its kind. -/
def because (kind : SessionFaultKind) (message : String) (details : Entries) : SessionFault :=
  ⟨kind, kind.code, message, details⟩

/-- The fault as one line: its code in brackets and its message. -/
def line (fault : SessionFault) : String :=
  "[" ++ fault.code ++ "] " ++ fault.message

/-- The fault as a mapping; empty details are left out. -/
def toEntries (fault : SessionFault) : Entries :=
  [("error", .text fault.code), ("message", .text fault.message)] ++
    (if fault.details.isEmpty then [] else [("details", .dict fault.details)])

end SessionFault

end QuoteDesk
