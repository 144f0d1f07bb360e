import PortTunnel.Cluster.Settings
import PortTunnel.Machine.Path

/-!
# Ways to reach a cluster, as they are given

* `AccessArguments`: the arguments of a command that say how a cluster is reached.
* `AccessArguments.toAccess`: what they mean. Only variables for a program that prints
  credentials can be given wrongly.
-/

namespace PortTunnel.CommandLine

open Text (TextTable)

/-- Why arguments that can all be read on their own mean nothing together. -/
inductive Mistake where
  /-- A variable is given without a value. -/
  | variable (text : String)
  /-- A session is given without the region that it lives in. -/
  | noRegion
  deriving DecidableEq, Repr

structure AccessArguments where
  host : Option String := none
  username : Option String := none
  password : Option String := none
  insecure : Bool := false
  tlsServerName : Option String := none
  clientCertificate : Option String := none
  clientKey : Option String := none
  authority : Option String := none
  /-- Paths of files, with a colon between any two. -/
  paths : Option String := none
  path : Option String := none
  context : Option String := none
  contextUser : Option String := none
  contextCluster : Option String := none
  token : Option String := none
  proxyUrl : Option String := none
  execCommand : Option String := none
  execApiVersion : Option String := none
  execArgs : List String := []
  /-- Variables, each as a name and a value with a sign of equality between them. -/
  execEnv : List String := []
  deriving DecidableEq, Repr

namespace AccessArguments

/-- The version of the interface to a program that prints credentials, if none is given. -/
def defaultApiVersion : String := "client.authentication.k8s.io/v1beta1"

/-- Name and value; the first sign of equality is the one between them. -/
def pair? (s : String) : Option (String × String) :=
  match s.toList.dropWhile (· ≠ '=') with
  | [] => none
  | _ :: value => some (String.ofList (s.toList.takeWhile (· ≠ '=')), String.ofList value)

/-- Adds variables to a table; the last value of a name counts. -/
def addPairs (t : TextTable) : List String → Except Mistake TextTable
  | [] => .ok t
  | s :: rest =>
    match pair? s with
    | some (name, value) => addPairs (t.insert name value) rest
    | none => .error (.variable s)

/-- No table at all if there are no variables. -/
def table : List String → Except Mistake (Option TextTable)
  | [] => .ok none
  | texts => (addPairs .empty texts).map some

/-- Without a command, whatever else is given of a login means nothing. -/
def login (a : AccessArguments) : Except Mistake (Option Cluster.ExecLogin) :=
  match a.execCommand with
  | none => .ok none
  | some command => do
    let env ← table a.execEnv
    .ok (some {
      apiVersion := a.execApiVersion.getD defaultApiVersion
      command := command
      env := env
      args := if a.execArgs = [] then none else some a.execArgs })

def toAccess (a : AccessArguments) : Except Mistake Cluster.Access := do
  let login ← a.login
  .ok {
    host := a.host, username := a.username, password := a.password, insecure := a.insecure
    tlsServerName := a.tlsServerName, clientCertificate := a.clientCertificate
    clientKey := a.clientKey, authority := a.authority
    paths := a.paths.map Machine.Path.splitList, path := a.path, context := a.context
    contextUser := a.contextUser, contextCluster := a.contextCluster, token := a.token
    proxyUrl := a.proxyUrl, exec := login }

end AccessArguments

end PortTunnel.CommandLine
