import PortTunnel.Cluster.Kubeconfig
import PortTunnel.Cluster.Settings
import PortTunnel.Error

/-!
# Loading a kubeconfig

How files are read, what two documents are together and where the usual document is are matters of
the library that clusters are reached with. Which of its functions are called for which files, and
what becomes of a failure, is decided here.

* `Kubeconfig.Library`: what the library makes of kubeconfig files.
* `Cluster.load`: the document that the settings of a tunnel name. An explicit path that
  cannot be read is an error; the usual place may be empty.
-/

namespace PortTunnel

/-- What a library makes of kubeconfig files. A refusal is in its own words. -/
structure Kubeconfig.Library where
  /-- The document in one file. -/
  readFrom : (path : String) → Except String Kubeconfig
  /-- Two documents as one, the first of which prevails. -/
  merge : Kubeconfig → Kubeconfig → Except String Kubeconfig
  /-- The document in the usual place. -/
  read : Except String Kubeconfig

namespace Kubeconfig.Library

/-- A document next to those before it, if there are any. -/
def join (lib : Library) : (before : Option Kubeconfig) → Kubeconfig → Except String Kubeconfig
  | none, next => .ok next
  | some before, next => lib.merge before next

end Kubeconfig.Library

namespace Cluster

open Kubeconfig (Library)

variable (lib : Library)

def unreadFile (path text : String) : Error := .config s!"cannot read kubeconfig {path}: {text}"

def unmergedFile (path text : String) : Error := .config s!"cannot merge {path}: {text}"

def readFile (path : String) : Except Error Kubeconfig :=
  (lib.readFrom path).mapError (unreadFile path)

/-- Reads files in order, and merges each into those before it, up to the first that fails. -/
def readFiles (before : Option Kubeconfig) : List String → Except Error (Option Kubeconfig)
  | [] => .ok before
  | path :: rest => do
    let next ← readFile lib path
    let merged ← (lib.join before next).mapError (unmergedFile path)
    readFiles (some merged) rest

/-- A list of paths comes before a single path, and either before the usual place. -/
def load (a : Access) : Except Error (Option Kubeconfig) :=
  match a.paths, a.path with
  | some (path :: rest), _ => readFiles lib none (path :: rest)
  | _, some path => (readFile lib path).map some
  | _, none => .ok lib.read.toOption

theorem readFile_engines (path : String) : Error.OnlyEngines (readFile lib path) := by
  rw [readFile]
  cases lib.readFrom path with
  | ok k => exact .ok k
  | error text => exact .error rfl

theorem readFiles_engines (before : Option Kubeconfig) (paths : List String) :
    Error.OnlyEngines (readFiles lib before paths) := by
  induction paths generalizing before with
  | nil => exact .ok before
  | cons path rest ih =>
    refine .bind (readFile_engines lib path) fun next => ?_
    cases lib.join before next with
    | ok merged => exact ih (some merged)
    | error text => exact .error rfl

theorem load_engines (a : Access) : Error.OnlyEngines (load lib a) := by
  rw [load]
  split
  · exact readFiles_engines lib none _
  · exact .map some (readFile_engines lib _)
  · exact .ok _

end Cluster

end PortTunnel
