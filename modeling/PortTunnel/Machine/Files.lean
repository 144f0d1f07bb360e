import PortTunnel.Machine.Fault
import PortTunnel.Machine.Path

/-!
# Files

A tree of files, as far as the program looks at it.

* `Files.read`, `Files.append`: the content of a file.
* `Files.makeDirectories`: a directory with all those above it.
* `Files.children`: what a directory holds.
-/

namespace PortTunnel.Machine

/-- Where something is: the steps from the root. -/
abbrev Place := List String

inductive Entry where
  | directory
  | file (bytes : List UInt8) (executable : Bool)
  deriving DecidableEq, Repr

structure Files where
  entries : List (Place × Entry) := []
  /-- The directory that paths start from. -/
  here : Place := ["work"]
  deriving DecidableEq, Repr

namespace Files

/-- The longest name of a file, in bytes. -/
def nameLimit : Nat := 255

/-- What is found at a place. Whatever something lies below is a directory. -/
def find? (fs : Files) (place : Place) : Option Entry :=
  match fs.entries.find? (·.1 = place) with
  | some e => some e.2
  | none =>
    if place = [] || place.isPrefixOf fs.here || fs.entries.any (place.isPrefixOf ·.1) then
      some .directory
    else none

/-- Puts an entry in the place of the one before it, or adds it at the end. -/
def put (place : Place) (entry : Entry) : List (Place × Entry) → List (Place × Entry)
  | [] => [(place, entry)]
  | e :: rest => if e.1 = place then (place, entry) :: rest else e :: put place entry rest

def set (fs : Files) (place : Place) (entry : Entry) : Files :=
  { fs with entries := put place entry fs.entries }

/-- Follows steps down from a place. Each place that is left must be a directory. -/
def walk (fs : Files) (place : Place) : List String → Except Fault Place
  | [] => .ok place
  | s :: rest =>
    match fs.find? place with
    | some .directory =>
      if s = ".." then fs.walk place.dropLast rest
      else if nameLimit < s.utf8ByteSize then .error .nameTooLong
      else fs.walk (place ++ [s]) rest
    | some (.file _ _) => .error .notDirectory
    | none => .error .notFound

/-- The place of a path, whether or not something is there. -/
def resolve (fs : Files) (path : String) : Except Fault Place :=
  if path.toList.contains '\x00' then .error .nulInPath
  else if path.isEmpty then .error .notFound
  else fs.walk (if Path.isAbsolute path then [] else fs.here) (Path.steps path)

/-- What a path leads to. -/
def open? (fs : Files) (path : String) : Except Fault Entry := do
  let place ← fs.resolve path
  match fs.find? place with
  | some e => .ok e
  | none => .error .notFound

def read (fs : Files) (path : String) : Except Fault (List UInt8) := do
  match ← fs.open? path with
  | .file bytes _ => .ok bytes
  | .directory => .error .isDirectory

/-- A file to be written at a path: its place and what it holds so far. -/
def target (fs : Files) (path : String) : Except Fault (Place × List UInt8 × Bool) := do
  let place ← fs.resolve path
  match fs.find? place with
  | some (.file bytes executable) => .ok (place, bytes, executable)
  | some .directory => .error .isDirectory
  | none =>
    match fs.find? place.dropLast with
    | some .directory => .ok (place, [], false)
    | some (.file _ _) => .error .notDirectory
    | none => .error .notFound

/-- Adds bytes at the end of a file, which is made if there is none. -/
def append (fs : Files) (path : String) (bytes : List UInt8) : Except Fault Files := do
  let (place, old, executable) ← fs.target path
  .ok (fs.set place (.file (old ++ bytes) executable))

/-- Makes each directory on the way that is not there. -/
def makeSteps (fs : Files) (place : Place) : List String → Except Fault Files
  | [] => .ok fs
  | ".." :: rest => makeSteps fs place.dropLast rest
  | s :: rest =>
    let next := place ++ [s]
    match fs.find? next with
    | some .directory => makeSteps fs next rest
    | some (.file _ _) => .error (if rest.isEmpty then .exists else .notDirectory)
    | none => makeSteps (fs.set next .directory) next rest

/-- A directory at a path, with all those above it. The empty path is one already. -/
def makeDirectories (fs : Files) (path : String) : Except Fault Files :=
  let steps := Path.steps path
  if path.toList.contains '\x00' then .error .nulInPath
  else if steps.any fun s => nameLimit < s.utf8ByteSize then .error .nameTooLong
  else fs.makeSteps (if Path.isAbsolute path then [] else fs.here) steps

/-- The names in a directory, each with what it stands for. -/
def children (fs : Files) (path : String) : List (String × Entry) :=
  match fs.resolve path with
  | .error _ => []
  | .ok place =>
    fs.entries.filterMap fun e =>
      match e.1.getLast? with
      | some name => if e.1.dropLast = place then some (name, e.2) else none
      | none => none

end Files

end PortTunnel.Machine
