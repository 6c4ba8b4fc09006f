import QuoteDesk.Text.Blank
import QuoteDesk.Text.Lowercase

/-!
# Classifying messages

A message asks for a building analysis when it names a part of a building and a requirement; all
other messages are chat. Messages with marks of scripts are refused.
-/

namespace QuoteDesk.Message

open Text

def buildingWords : List String :=
  ["floor", "building", "office", "house", "home", "retail", "store", "access control", "cctv",
    "security", "entrance", "door", "users", "staff", "employees", "people", "cabling", "network",
    "camera"]

def requirementWords : List String :=
  ["need", "want", "require", "looking for", "planning", "design"]

def scriptMarks : List String :=
  ["<script", "onload", "onerror"]

def holds (word : List Char) : List Char → Bool
  | [] => word.isEmpty
  | c :: rest => word.isPrefixOf (c :: rest) || holds word rest

def holdsAny (words : List String) (chars : List Char) : Bool :=
  words.any fun word => holds word.toList chars

/-- Whether a message describes what a building needs; capitals do not matter. -/
def isBuildingRequest (message : String) : Bool :=
  let chars := (lowercase message).toList
  holdsAny buildingWords chars && holdsAny requirementWords chars

/-- Whether a message has a mark of a script in it; capitals and the long s do not matter. -/
def hasScriptMark (message : String) : Bool :=
  holdsAny scriptMarks (message.toList.map foldedLetter)

end QuoteDesk.Message
