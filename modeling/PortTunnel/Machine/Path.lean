/-!
# Paths

Paths are texts with `/` between their steps.

* `Path.parent?`: the path without its last step.
* `Path.join`: a path below a directory; one that starts at the root stands for itself.
* `Path.steps`: the steps that lead somewhere.
* `Path.splitList`: the paths in a list of paths.
-/

namespace PortTunnel.Machine.Path

def isAbsolute (path : String) : Bool := path.toList.head? = some '/'

/-- Pieces between slashes, in order. -/
def pieces : List Char → List (List Char)
  | [] => [[]]
  | c :: cs =>
    if c = '/' then [] :: pieces cs
    else match pieces cs with
      | p :: ps => (c :: p) :: ps
      | [] => [[c]]

/-- The steps of a path: empty pieces and `.` lead nowhere. -/
def steps (path : String) : List String :=
  ((pieces path.toList).map String.ofList).filter fun s => s ≠ "" && s ≠ "."

/-- Drops slashes, and `.` after a slash, from a reversed path. The first slash of a path
that starts at the root is kept. -/
def dropTrailing : List Char → List Char
  | ['/'] => ['/']
  | '/' :: rest => dropTrailing rest
  | '.' :: '/' :: rest => dropTrailing ('/' :: rest)
  | cs => cs

/-- The path without its last step; none for the empty path and for the root. -/
def parent? (path : String) : Option String :=
  match dropTrailing path.toList.reverse with
  | [] => none
  | ['/'] => none
  | cs => some (String.ofList (dropTrailing (cs.dropWhile (· ≠ '/'))).reverse)

def join (directory path : String) : String :=
  if isAbsolute path || directory.isEmpty then path
  else if directory.toList.getLast? = some '/' then directory ++ path
  else directory ++ "/" ++ path

/-- The paths between colons, without the empty ones. -/
def splitList (text : String) : List String := (text.splitOn ":").filter (· ≠ "")

end PortTunnel.Machine.Path
