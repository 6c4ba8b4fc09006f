import QuoteDesk.Fault

/-!
# Paths

A path names a place among files: a root, if it has one, and parts, each of which leads one step
further down. Two dots lead back up and are kept. A path is written with single slashes; an empty
one without a root is written as a dot.
-/

namespace QuoteDesk

open Text

/-- A path. `slashes` is the number of slashes of its root, zero for a path that starts where one
is. -/
structure Path where
  slashes : Nat
  parts : List String
deriving DecidableEq, Repr, Inhabited

namespace Path

/-- The pieces of a text between slashes. -/
def pieces : List Char → List (List Char)
  | [] => [[]]
  | c :: rest =>
    if c = '/' then [] :: pieces rest
    else
      match pieces rest with
      | [] => [[c]]
      | piece :: more => (c :: piece) :: more

/-- Whether a piece between slashes is a part: empty pieces and single dots are none. -/
def isPart (piece : List Char) : Bool :=
  !piece.isEmpty && piece != ['.']

/-- Reads a path. Exactly two slashes at its front are a root of their own. -/
def ofText (source : String) : Path :=
  let chars := source.toList
  let slashes := (chars.takeWhile (· == '/')).length
  ⟨if slashes = 2 then 2 else min slashes 1, ((pieces chars).filter isPart).map String.ofList⟩

def text (path : Path) : String :=
  if path.slashes = 0 && path.parts.isEmpty then "."
  else String.ofList (List.replicate path.slashes '/') ++ "/".intercalate path.parts

/-- The last part of a path; a root has none. -/
def name (path : Path) : String :=
  path.parts.getLast?.getD ""

/-- The path without its last part. -/
def parent (path : Path) : Path :=
  { path with parts := path.parts.dropLast }

def child (path : Path) (name : String) : Path :=
  { path with parts := path.parts ++ [name] }

/-- The name without the last dot and what follows it. A dot at its front or its end does not
count. -/
def stem (name : List Char) : List Char :=
  let behind := name.reverse.takeWhile (· != '.')
  let before := (name.reverse.dropWhile (· != '.')).drop 1
  if behind.isEmpty || before.isEmpty then name else before.reverse

def withSuffix (path : Path) (suffix : String) : Except Fault Path :=
  if path.name.isEmpty then
    .error (.badValue ("PosixPath(" ++ quoted path.text ++ ") has an empty name"))
  else .ok (path.parent.child (String.ofList (stem path.name.toList) ++ suffix))

/-- The path with a leading tilde replaced by a home. Homes of other users are not known. -/
def expandHome (path home : Path) : Except Fault Path :=
  if path.slashes ≠ 0 then .ok path
  else
    match path.parts with
    | [] => .ok path
    | first :: rest =>
      if first = "~" then .ok { home with parts := home.parts ++ rest }
      else if first.toList.head? = some '~' then
        .error (.reported "RuntimeError" "Could not determine home directory.")
      else .ok path

example : stem ['a', '.', 'b', '.', 'c'] = ['a', '.', 'b'] := by decide +kernel

example : stem ['.', 'a'] = ['.', 'a'] := by decide +kernel

end Path

end QuoteDesk
