import PortTunnel.Cluster.Answer
import PortTunnel.Cluster.Connection
import PortTunnel.Cluster.Reading
import PortTunnel.Cluster.Request
import PortTunnel.Machine.Network

/-!
# Clients of a cluster

* `Cluster.Server`: how a cluster answers.
* `Cluster.Client`: a connection, and the server behind its address if that can be reached.
* `Cluster.Client.create`: the client for a connection, unless that goes through a proxy.
* `Cluster.Client.answer`: what is read from the answer about a resource.
* `Cluster.Client.requests`: what the server sees of questions.
* `Cluster.toolkit`: the library for clusters on a machine with a network.
-/

namespace PortTunnel.Text.Url

/-- The host and the port of an address, where the port of the scheme is the usual one. -/
def endpoint? (u : Url) : Option (String × UInt16) :=
  let hostPort := (u.authority.splitOn "@").getLastD ""
  match hostPort.splitOn ":" with
  | [host] =>
    if u.scheme = some "https" then some (host, 443)
    else if u.scheme = some "http" then some (host, 80)
    else none
  | [host, port] => port.toNat?.bind fun p => if p < 65536 then some (host, UInt16.ofNat p) else none
  | _ => none

end PortTunnel.Text.Url

namespace PortTunnel.Cluster

open Text (TextTable)
open Machine (Network Reply)

structure Server where
  /-- The answer about a resource; none if there is no answer. -/
  reply : Resource → Option Reply
  /-- Whether a port of a pod is forwarded. -/
  forwards : Resource → Bool

structure Client where
  connection : Connection
  server : Option Server

namespace Client

/-- The server of an address. Only plain connections to the machine itself are known. -/
def reach (n : Network) (at? : UInt16 → Option Server) (c : Connection) : Option Server :=
  match c.url.scheme, c.url.endpoint? with
  | some "http", some (host, port) =>
    match n.connect (fun p => (at? p).isSome) host port with
    | .ok _ => at? port
    | .error _ => none
  | _, _ => none

/-- Why there is no client behind a proxy: no kind of proxy is spoken to. -/
def proxyRefusal (proxy : Text.Url) : String :=
  let reason := match proxy.scheme with
    | some "http" => "requires the disabled feature \"kube/http-proxy\""
    | some "socks5" => "requires the disabled feature \"kube/socks5\""
    | _ => "uses an unsupported protocol"
  s!"configured proxy {proxy.text} {reason}"

def create (n : Network) (at? : UInt16 → Option Server) (c : Connection) : Except String Client :=
  match c.proxy with
  | some proxy => .error (proxyRefusal proxy)
  | none => .ok ⟨c, reach n at? c⟩

/-- The answer about a resource, if there is a request for it and a server for that. -/
def ask (c : Client) (r : Resource) : Option Reply := do
  let _ ← c.connection.request? r
  let server ← c.server
  server.reply r

/-- What is read from the answer about a resource, or why there is nothing. -/
def answer {α : Type} (c : Client) (r : Resource) (read : Reply → Option α) : Except String α :=
  match c.ask r with
  | none => .error "no answer"
  | some reply =>
    match read reply with
    | some a => .ok a
    | none => .error s!"the answer with status {reply.status} says nothing about it"

def forwards (c : Client) (r : Resource) : Bool :=
  match c.connection.request? r, c.server with
  | some _, some server => server.forwards r
  | _, _ => false

/-- What the server sees of questions about resources. -/
def requests (c : Client) (rs : List Resource) : List Request :=
  if c.server.isSome then rs.filterMap c.connection.request? else []

end Client

/-- The library on a machine with a network. Nothing around the program suggests a cluster. -/
def toolkit (fs : Machine.Files) (env : TextTable) (n : Network)
    (at? : UInt16 → Option Server) : Toolkit Connection Client where
  toLibrary := Kubeconfig.library fs env
  infer := .error "there is no cluster around the program"
  configure := connection fs env
  create := Client.create n at?
  selector c nspace service := c.answer (.service nspace service) Answer.selector?
  pods c nspace query := c.answer (.pods nspace query) Answer.podNames?

end PortTunnel.Cluster
