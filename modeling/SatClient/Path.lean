/-!
File paths in normal form. Repeated and trailing slashes and the component `.` are dropped and `..`
is kept; a path that starts with exactly two slashes keeps both.
-/

namespace SatClient

/-- A path from the working directory, or from a root with one or two slashes. -/
structure Path where
  slashes : Nat := 0
  parts : List String := []
  deriving DecidableEq, Repr

namespace Path

def splitSlashes : List Char → List (List Char)
  | [] => [[]]
  | c :: cs =>
    if c = '/' then [] :: splitSlashes cs
    else
      match splitSlashes cs with
      | [] => [[c]]
      | part :: parts => (c :: part) :: parts

def leadingSlashes (cs : List Char) : Nat :=
  match (cs.takeWhile (· = '/')).length with
  | 0 => 0
  | 2 => 2
  | _ => 1

def ofText (text : String) : Path where
  slashes := leadingSlashes text.toList
  parts := ((splitSlashes text.toList).filter fun part => !part.isEmpty && part != ['.']).map
    String.ofList

def endsInSlash (text : String) : Bool :=
  text.toList.getLast? = some '/'

/-- A path that keeps the component `.`, where a walk has to find a directory; a trailing slash
asks for the same. -/
def verbatim (text : String) : Path where
  slashes := leadingSlashes text.toList
  parts := ((splitSlashes text.toList).filter fun part => !part.isEmpty).map String.ofList ++
    (if endsInSlash text then ["."] else [])

def text (path : Path) : String :=
  if path.slashes = 0 && path.parts.isEmpty then "."
  else String.ofList (List.replicate path.slashes '/') ++ String.intercalate "/" path.parts

def isRelative (path : Path) : Bool :=
  path.slashes = 0

def parent (path : Path) : Path :=
  { path with parts := path.parts.dropLast }

def name (path : Path) : String :=
  path.parts.getLastD ""

def baseName (text : String) : String :=
  String.ofList ((splitSlashes text.toList).getLastD [])

end Path

end SatClient
