import PortTunnel.Cluster.Settings
import PortTunnel.Text.Base64
import PortTunnel.Text.Utf8

/-!
# Overrides on a cluster configuration

Explicit settings are laid over a configuration document: over the cluster and the user of
the context that a client would select, which are made up where the document has none.

* `Access.clusterOverrides`, `Access.userOverrides`: the members that the settings set.
* `patch?`: the document with all overrides in place. There is none if there is something
  to override and the document is neither an object nor null.
-/

namespace PortTunnel.Cluster

open Json (put find?)

/-- Members of an object. -/
abbrev Members := List (String × Json)

/-- The name of contexts, clusters and users that are made up. -/
def syntheticName : String := "tunnelward"

/-! ## Overrides as members -/

def overrideText (key : String) : Option String → Members
  | some s => [(key, .string s)]
  | none => []

/-- PEM text is embedded as base64. -/
def overridePem (key : String) : Option String → Members
  | some pem => [(key, .string (String.ofList (Text.Base64.encode .standard (Text.Utf8.encode pem.toList))))]
  | none => []

def Access.clusterOverrides (a : Access) : Members :=
  overrideText "server" a.host ++
  (if a.insecure then [("insecure-skip-tls-verify", .bool true)] else []) ++
  overrideText "tls-server-name" a.tlsServerName ++
  overridePem "certificate-authority-data" a.authority ++
  overrideText "proxy-url" a.proxyUrl

/-- A login program as the configuration spells it. -/
def ExecLogin.toConfig (e : ExecLogin) : Json :=
  .object <|
    [("apiVersion", .string e.apiVersion), ("command", .string e.command),
      ("interactiveMode", .string "IfAvailable")] ++
    (match e.args with
      | some args => [("args", Json.ofTexts args)]
      | none => []) ++
    (match e.env with
      | some env =>
        [("env", .array (env.entries.map fun v =>
          .object [("name", .string v.1), ("value", .string v.2)]))]
      | none => [])

def Access.userOverrides (a : Access) : Members :=
  overrideText "token" a.token ++
  overrideText "username" a.username ++
  overrideText "password" a.password ++
  overridePem "client-certificate-data" a.clientCertificate ++
  overridePem "client-key-data" a.clientKey ++
  (match a.exec with
    | some e => [("exec", e.toConfig)]
    | none => [])

/-- Puts each member in turn. -/
def putAll (new : Members) (ms : Members) : Members := new.foldl (fun ms m => put m.1 m.2 ms) ms

/-! ## Named entries -/

/-- Whether a value is an entry of a name. -/
def isNamed (name : String) (entry : Json) : Bool := (entry.member "name").text? = some name

/-- The items of a list member; anything else counts as an empty list. -/
def listMember (list : String) (doc : Members) : List Json := ((find? list doc).bind Json.items?).getD []

/-- An entry with its body changed; a body that is no object counts as an empty one. -/
def changeBody (body : String) (new : Members) (entry : Json) : Json :=
  Json.set body (.object (putAll new (((entry.get? body).bind Json.members?).getD []))) entry

/-- Changes the body of the first entry of a name, or adds such an entry at the end. -/
def changeNamed (name body : String) (new : Members) : List Json → List Json
  | [] => [.object [("name", .string name), (body, .object (putAll new []))]]
  | e :: es => if isNamed name e then changeBody body new e :: es else e :: changeNamed name body new es

/-- Changes the body of the first entry of a name in a list of the document. -/
def changeEntry (list name body : String) (new : Members) (doc : Members) : Members :=
  put list (.array (changeNamed name body new (listMember list doc))) doc

/-! ## The patch -/

/-- The name of the context that a client would select. -/
def contextName? (a : Access) (doc : Members) : Option String :=
  a.context <|> (find? "current-context" doc).bind Json.text?

/-- The body of the selected context: null if its entry has none. -/
def selectedContext? (a : Access) (doc : Members) : Option Json := do
  let name ← contextName? a doc
  let entry ← (listMember "contexts" doc).find? (isNamed name)
  some (entry.member "context")

/-- Adds the selected context, and makes it the current one where there is none. -/
def addContext (name cluster user : String) (doc : Members) : Members :=
  let doc := changeEntry "contexts" name "context"
    [("cluster", .string cluster), ("user", .string user)] doc
  match (find? "current-context" doc).bind Json.text? with
  | some current => if current.isEmpty then put "current-context" (.string name) doc else doc
  | none => put "current-context" (.string name) doc

/-- The document with a selected context, and the names of its cluster and its user. -/
def settle (a : Access) (doc : Members) : Members × Option String × Option String :=
  match selectedContext? a doc with
  | some ctx =>
    (doc, a.contextCluster <|> (ctx.member "cluster").text?,
      a.contextUser <|> (ctx.member "user").text?)
  | none =>
    let cluster := a.contextCluster.getD syntheticName
    let user := a.contextUser.getD syntheticName
    let name := (contextName? a doc).getD syntheticName
    (addContext name cluster user doc, some cluster, some user)

/-- Lays overrides over the named entry, if there are any and it has a name. -/
def overrideEntry (list body : String) (name : Option String) (new : Members) (doc : Members) : Members :=
  match name, new with
  | some name, _ :: _ => changeEntry list name body new doc
  | _, _ => doc

def patchMembers (a : Access) (doc : Members) : Members :=
  let (doc, cluster, user) := settle a doc
  overrideEntry "users" "user" user a.userOverrides
    (overrideEntry "clusters" "cluster" cluster a.clusterOverrides doc)

def patch? (a : Access) (doc : Json) : Option Json :=
  if a.clusterOverrides.isEmpty && a.userOverrides.isEmpty then some doc
  else match doc with
    | .null => some (.object (patchMembers a []))
    | .object ms => some (.object (patchMembers a ms))
    | _ => none

end PortTunnel.Cluster
