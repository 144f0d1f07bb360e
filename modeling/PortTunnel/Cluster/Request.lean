import PortTunnel.Cluster.Connection
import PortTunnel.Cluster.Service
import PortTunnel.Text.Form

/-!
# Requests to a cluster

* `Cluster.Resource`: what a cluster can be asked for, and under which path.
* `Cluster.Request`: a question as it goes over the wire.
* `Cluster.Connection.request?`: the request for a resource. There is none if the path would
  not be one.
-/

namespace PortTunnel.Cluster

open Text (Url)

inductive Resource where
  | service (nspace name : String)
  | pods (nspace query : String)
  | pod (nspace name : String)
  | portForward (nspace pod : String) (port : UInt16)
  deriving DecidableEq, Repr

namespace Resource

def ofCall : Call → Resource
  | .selector nspace name => .service nspace name
  | .pods nspace query => .pods nspace query

/-- Whether the resource is named at all; a list has no name. -/
def isNamed : Resource → Bool
  | .service _ name => name ≠ ""
  | .pods _ _ => true
  | .pod _ name => name ≠ ""
  | .portForward _ name _ => name ≠ ""

def path : Resource → String
  | .service nspace name => s!"/api/v1/namespaces/{nspace}/services/{name}"
  | .pods nspace query =>
    s!"/api/v1/namespaces/{nspace}/pods?&labelSelector=" ++ Text.Form.query query
  | .pod nspace name => s!"/api/v1/namespaces/{nspace}/pods/{name}"
  | .portForward nspace name port =>
    s!"/api/v1/namespaces/{nspace}/pods/{name}/portforward?&ports={port.toNat}"

end Resource

structure Request where
  path : String
  authorization : Option String
  deriving DecidableEq, Repr

namespace Connection

/-- A user name with a password comes before a token. The value ends in no blank. -/
def authorization (c : Connection) : Option String :=
  match c.user.username, c.user.password, c.user.token with
  | some name, some password, _ =>
    some ("Basic " ++ String.ofList
      (Text.Base64.encode .standard (Text.Utf8.encode (name ++ ":" ++ password).toList)))
  | _, _, some token => some (if token = "" then "Bearer" else "Bearer " ++ token)
  | _, _, none => none

/-- The path of the address without slashes at its end; paths of resources come behind it. -/
def basePath (c : Connection) : String :=
  String.ofList (c.url.path.toList.reverse.dropWhile (· = '/')).reverse

def request? (c : Connection) (r : Resource) : Option Request :=
  if r.isNamed then
    match Url.parse r.path with
    | .ok url => some ⟨c.basePath ++ url.text, c.authorization⟩
    | .error _ => none
  else none

end Connection

end PortTunnel.Cluster
