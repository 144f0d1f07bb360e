import PortTunnel.Cluster.Toolkit
import PortTunnel.Machine.Files
import PortTunnel.Text.Pem
import PortTunnel.Text.Url

/-!
# Connections to a cluster

Where a cluster is, whom it trusts and who asks it, as far as a kubeconfig says.

* `Cluster.Selection`: the cluster, the user and the context that a document selects.
* `Cluster.Connection`: what a client has to know.
* `Cluster.connection`: the connection that a document describes on a machine.
-/

namespace PortTunnel.Cluster

open Text (TextTable Url)
open Machine (Files)

/-- Why a document does not lead to a cluster. -/
inductive Fault where
  | noCurrentContext
  | noContext (name : String)
  | noCluster (name : String)
  | noUrl
  | url (fault : Url.Fault)
  | authority
  | certificates (fault : Text.Pem.Fault)
  | proxy (fault : Url.Fault)
  deriving DecidableEq, Repr

def Fault.message : Fault → String
  | .noCurrentContext => "failed to determine current context"
  | .noContext name => s!"failed to load current context: {name}"
  | .noCluster name => s!"failed to load the cluster of context: {name}"
  | .noUrl => "cluster url is missing on selected cluster"
  | .url fault => s!"failed to parse cluster url: {fault.message}"
  | .authority => "failed to load certificate authority"
  | .certificates fault => s!"failed to parse PEM-encoded certificates: {fault.message}"
  | .proxy fault => s!"failed to parse proxy url: {fault.message}"

/-! ## Selection -/

structure Selection where
  context : Kubeconfig.Context
  cluster : Kubeconfig.Cluster
  user : Kubeconfig.User

/-- The body of the first entry of a name. -/
def bodyOf? {α : Type} (name : String) (entries : List (Kubeconfig.Named α)) : Option α :=
  (entries.find? (·.name = name)).bind (·.body)

/-- The selected context is the one that is chosen, or else the current one. -/
def select (k : Kubeconfig) (choice : Choice) : Except Fault Selection := do
  let name ← match choice.context <|> k.currentContext with
    | some name => .ok name
    | none => .error .noCurrentContext
  let context ← match bodyOf? name k.contexts with
    | some context => .ok context
    | none => .error (.noContext name)
  let clusterName := choice.cluster.getD context.cluster
  let cluster ← match bodyOf? clusterName k.clusters with
    | some cluster => .ok cluster
    | none => .error (.noCluster clusterName)
  let user := (choice.user <|> context.user).bind fun name => bodyOf? name k.users
  .ok ⟨context, cluster, user.getD .nobody⟩

/-! ## Connection -/

structure Connection where
  url : Url
  nspace : String
  /-- The certificates that the cluster is checked against, if it has its own. -/
  authorities : Option (List (List UInt8))
  /-- Whether the cluster is not checked at all. -/
  insecure : Bool
  serverName : Option String
  proxy : Option Url
  disableCompression : Bool
  user : Kubeconfig.User

/-- Data in the document comes before a file that it names. -/
def authorityBytes (fs : Files) (c : Kubeconfig.Cluster) : Except Fault (Option (List UInt8)) :=
  match c.authorityData, c.authorityFile with
  | some data, _ =>
    match Text.Base64.decode .standard (Text.Utf8.encode data.toList) with
    | .ok bytes => .ok (some bytes)
    | .error _ => .error .authority
  | none, some path =>
    match fs.read path with
    | .ok bytes => .ok (some bytes)
    | .error _ => .error .authority
  | none, none => .ok none

/-- The certificates in the bytes; blocks that are no text are passed over. -/
def authorities (fs : Files) (c : Kubeconfig.Cluster) : Except Fault (Option (List (List UInt8))) := do
  match ← authorityBytes fs c with
  | none => .ok none
  | some bytes =>
    let text := (Text.Utf8.decode bytes).toOption.getD []
    match Text.Pem.certificates text with
    | .ok certificates => .ok (some certificates)
    | .error f => .error (.certificates f)

/-- A text that says something. -/
def nonEmpty (s : Option String) : Option String := s.filter (· ≠ "")

/-- The address of the proxy: from the document or from the environment. -/
def proxyText (env : TextTable) (c : Kubeconfig.Cluster) : Option String :=
  nonEmpty c.proxyUrl <|> nonEmpty (env.get? "HTTP_PROXY") <|> nonEmpty (env.get? "HTTPS_PROXY")

def proxy (env : TextTable) (c : Kubeconfig.Cluster) : Except Fault (Option Url) :=
  match proxyText env c with
  | none => .ok none
  | some text =>
    match Url.parse text with
    | .ok url => .ok (some url)
    | .error f => .error (.proxy f)

/-- A login program that is told about the cluster needs its certificates first. -/
def checkLogin (fs : Files) (s : Selection) : Except Fault Unit :=
  match s.user.exec with
  | some e => if e.provideClusterInfo then (authorityBytes fs s.cluster).map fun _ => () else .ok ()
  | none => .ok ()

def Selection.connection (fs : Files) (env : TextTable) (s : Selection) : Except Fault Connection := do
  checkLogin fs s
  let server ← match s.cluster.server with
    | some server => .ok server
    | none => .error .noUrl
  let url ← (Url.parse server).mapError .url
  let certificates ← authorities fs s.cluster
  let proxy ← proxy env s.cluster
  .ok {
    url := url
    nspace := s.context.nspace.getD "default"
    authorities := certificates
    insecure := s.cluster.insecure.getD false
    serverName := s.cluster.tlsServerName
    proxy := proxy
    disableCompression := s.cluster.disableCompression.getD false
    user := s.user }

def connection (fs : Files) (env : TextTable) (k : Kubeconfig) (choice : Choice) :
    Except String Connection :=
  ((select k choice).bind fun s => s.connection fs env).mapError Fault.message

end PortTunnel.Cluster
