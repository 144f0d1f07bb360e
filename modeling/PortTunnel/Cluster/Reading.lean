import PortTunnel.Cluster.Loading
import PortTunnel.Json.Reader
import PortTunnel.Machine.Files
import PortTunnel.Schema.Filling
import PortTunnel.Schema.Reading
import PortTunnel.Text.Blank
import PortTunnel.Text.Utf16
import PortTunnel.Text.Utf8

/-!
# Kubeconfig files on a machine

Stands for the library where the program runs on a machine without one. Documents are read if they
are written as JSON.

* `Kubeconfig.readFrom`: the document in a file, with relative paths made relative to the
  directory of the file.
* `Kubeconfig.merge`: two documents as one, the first of which prevails.
* `Kubeconfig.readUsual`: the document in the usual place.
* `Kubeconfig.library`: all of it.
-/

namespace PortTunnel

open Text (TextTable)
open Machine (Files Path.join Path.isAbsolute Path.parent? Path.splitList)

namespace Kubeconfig

/-! ## Reading -/

/-- The text of a file, in any of the encodings that a byte order mark tells apart. -/
def textOf? : List UInt8 → Option (List Char)
  | 0xFF :: 0xFE :: rest => Text.Utf16.decode? (Text.Utf16.units false rest)
  | 0xFE :: 0xFF :: rest => Text.Utf16.decode? (Text.Utf16.units true rest)
  | 0xEF :: 0xBB :: 0xBF :: rest => (Text.Utf8.decode rest).toOption
  | bytes => (Text.Utf8.decode bytes).toOption

/-- The document of a value; null is an empty document. -/
def ofJson? (j : Json) : Option Kubeconfig := do
  let j ← shape.fill? j
  (shape.readJson j).toOption.map ofVal

/-- The document of a text; an empty text is an empty document. -/
def ofText? (cs : List Char) : Option Kubeconfig :=
  if cs.all Text.isBlank then some {} else (Json.parse cs).toOption.bind ofJson?

/-- A path in a document, seen from outside the directory of the document. -/
def locate (directory path : String) : String := Path.join directory path

def Cluster.locate (directory : String) (c : Cluster) : Cluster :=
  { c with authorityFile := c.authorityFile.map (Kubeconfig.locate directory) }

def User.locate (directory : String) (u : User) : User :=
  { u with
    certificateFile := u.certificateFile.map (Kubeconfig.locate directory)
    keyFile := u.keyFile.map (Kubeconfig.locate directory)
    tokenFile := u.tokenFile.map (Kubeconfig.locate directory) }

def Named.map {α : Type} (f : α → α) (n : Named α) : Named α := { n with body := n.body.map f }

/-- The document with all its paths seen from outside a directory. -/
def relocate (directory : String) (k : Kubeconfig) : Kubeconfig :=
  { k with
    clusters := k.clusters.map (Named.map (Cluster.locate directory))
    users := k.users.map (Named.map (User.locate directory)) }

def readFrom (fs : Files) (path : String) : Except String Kubeconfig :=
  match fs.read path with
  | .error f => .error s!"failed to read kubeconfig from {path}: {f.message}"
  | .ok bytes =>
    match (textOf? bytes).bind ofText? with
    | none => .error "failed to parse kubeconfig"
    | some k =>
      match Path.parent? path with
      | some directory => .ok (k.relocate directory)
      | none => .ok k

/-! ## Merging -/

inductive Mismatch where
  | kind
  | apiVersion
  deriving DecidableEq, Repr

def Mismatch.message : Mismatch → String
  | .kind => "kubeconfigs with mismatching kind cannot be merged"
  | .apiVersion => "kubeconfigs with mismatching api version cannot be merged"

/-- Whether both say something and not the same. -/
def disagree (a b : Option String) : Bool := a.isSome && b.isSome && a != b

/-- The entries of the second list whose names the first does not have come after it. -/
def appendNew {α : Type} (xs ys : List (Named α)) : List (Named α) :=
  xs ++ ys.filter fun y => !xs.any fun x => x.name = y.name

def merge (a b : Kubeconfig) : Except Mismatch Kubeconfig :=
  if disagree a.kind b.kind then .error .kind
  else if disagree a.apiVersion b.apiVersion then .error .apiVersion
  else .ok {
    preferences := a.preferences <|> b.preferences
    clusters := appendNew a.clusters b.clusters
    users := appendNew a.users b.users
    contexts := appendNew a.contexts b.contexts
    currentContext := a.currentContext <|> b.currentContext
    extensions := a.extensions <|> b.extensions
    kind := a.kind <|> b.kind
    apiVersion := a.apiVersion <|> b.apiVersion }

/-! ## The usual place -/

/-- The variable that lists the usual files. -/
def pathsVariable : String := "KUBECONFIG"

/-- The files that are read where none is named. -/
def usualFiles (env : TextTable) : List String :=
  match ((env.get? pathsVariable).map Path.splitList).getD [] with
  | [] => match env.get? "HOME" with
    | some home => [Path.join home ".kube/config"]
    | none => []
  | paths => paths

/-- The documents of files as one, from an empty document on. -/
def readAll (fs : Files) (paths : List String) : Except String Kubeconfig :=
  paths.foldlM (fun k path => do (k.merge (← readFrom fs path)).mapError Mismatch.message) {}

def readUsual (fs : Files) (env : TextTable) : Except String Kubeconfig :=
  match usualFiles env with
  | [] => .error "failed to find the path of kubeconfig"
  | paths => readAll fs paths

/-! ## The library -/

/-- Kubeconfig files on a machine. -/
def library (fs : Files) (env : TextTable) : Library where
  readFrom := readFrom fs
  merge a b := (a.merge b).mapError Mismatch.message
  read := readUsual fs env

end Kubeconfig

end PortTunnel
