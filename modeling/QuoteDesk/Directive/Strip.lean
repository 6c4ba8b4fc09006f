import QuoteDesk.Directive.Scan

/-!
# Taking directives out of a text

Stretches are cut out of a text and the pieces that are left are joined. At a seam spaces and tabs
give way to a single space; none is kept next to a line break, in front of closing punctuation, or
where a side is empty. The result is trimmed. A cut may bring a new directive together, so a text
is cleaned by cutting until no directive is left.
-/

namespace QuoteDesk

open Text

namespace Span

/-- The part of a span that lies inside a text of a given length. -/
def clipped (length : Nat) (span : Span) : Nat × Nat :=
  (span.start.toNat, min length span.stop.toNat)

end Span

namespace Reply

/-- The pieces of a text outside of stretches given by their bounds in ascending order; where two
overlap the second one is cut short. -/
def pieces (chars : List Char) (cursor : Nat) : List (Nat × Nat) → List (List Char)
  | [] => [chars.drop cursor]
  | (start, stop) :: more =>
    if stop ≤ max start cursor then pieces chars cursor more
    else (chars.drop cursor).take (max start cursor - cursor) :: pieces chars stop more

/-- Closing punctuation, in front of which no space is kept. -/
def isClosing (c : Char) : Bool :=
  ['.', ',', ';', ':', '!', '?', ')', ']', '}'].contains c

/-- Whether two sides of a seam stand next to each other without a space. -/
def touches (left right : List Char) : Bool :=
  left.getLast? = some '\n' ||
    right.head?.any fun c => c == '\n' || c == '\r' || isClosing c

def joinSeam (left right : List Char) : List Char :=
  let left := trimEnd isInlineBlank left
  let right := trimStart isInlineBlank right
  if left.isEmpty || right.isEmpty || touches left right then left ++ right
  else left ++ ' ' :: right

def joinPieces : List (List Char) → List Char
  | [] => []
  | first :: more => more.foldl joinSeam first

/-- The order of stretches: by their start, then by their end. -/
def notAfter (a b : Nat × Nat) : Bool :=
  a.1 < b.1 || a.1 == b.1 && a.2 ≤ b.2

/-- Cuts spans out of a text; they may come in any order, overlap or lie outside of it. -/
def strip (chars : List Char) (spans : List Span) : List Char :=
  trim (joinPieces (pieces chars 0 ((spans.map (Span.clipped chars.length)).mergeSort notAfter)))

def directiveSpans (chars : List Char) : List Span :=
  (Directive.scan chars).map Directive.span

/-- Cuts directives out of a text until none is left, in at most `fuel` rounds. -/
def cleanWithin (fuel : Nat) (chars : List Char) : List Char :=
  match fuel with
  | 0 => trim chars
  | fuel + 1 =>
    match directiveSpans chars with
    | [] => trim chars
    | spans => cleanWithin fuel (strip chars spans)

/-- A text without directives, trimmed. Every round makes the text shorter, so its length bounds
the rounds. -/
def clean (chars : List Char) : List Char :=
  cleanWithin (chars.length + 1) chars

/-- A text without directives, trimmed. -/
def cleanText (s : String) : String :=
  String.ofList (clean s.toList)

end Reply

end QuoteDesk
