import PortTunnel.Schema.Recorded

/-!
# Settings of a cluster tunnel

* `Cluster.Access`: how the cluster is reached; each setting overrides what the cluster
  configuration file says, and an empty text is a setting like any other.
* `Cluster.ExecLogin`: a program that prints credentials.
* `Cluster.Settings`: a listener and the service whose pod is the target.
* `Cluster.Assignment`: the settings together with the pod that was chosen.
-/

namespace PortTunnel.Cluster

open Schema
open Text (TextTable)

structure ExecLogin where
  apiVersion : String
  command : String
  env : Option TextTable
  args : Option (List String)
  deriving DecidableEq, Repr

structure Access where
  host : Option String := none
  username : Option String := none
  password : Option String := none
  insecure : Bool := false
  tlsServerName : Option String := none
  /-- PEM text, like the key and the authority. -/
  clientCertificate : Option String := none
  clientKey : Option String := none
  authority : Option String := none
  /-- Configuration files that are merged, the first one first. -/
  paths : Option (List String) := none
  /-- The configuration file that is read where no list is given. -/
  path : Option String := none
  context : Option String := none
  contextUser : Option String := none
  contextCluster : Option String := none
  token : Option String := none
  proxyUrl : Option String := none
  exec : Option ExecLogin := none
  deriving DecidableEq, Repr, Inhabited

structure Settings where
  localHost : String
  localPort : UInt16
  nspace : String
  service : String
  targetPort : UInt16
  access : Access
  deriving DecidableEq, Repr

structure Assignment where
  settings : Settings
  pod : String
  deriving DecidableEq, Repr

/-! ## Written form -/

abbrev ExecLogin.shape : Shape :=
  .record "struct ExecCredential" <|
    .text "api_version" <| .text "command" <| .required "env" (.nullable .table) <|
    .required "args" (.nullable .texts) .nil

def ExecLogin.toVal (e : ExecLogin) : ExecLogin.shape.Val := (e.apiVersion, e.command, e.env, e.args, ())

def ExecLogin.ofVal : ExecLogin.shape.Val → ExecLogin
  | (v, c, e, a, ()) => ⟨v, c, e, a⟩

instance : Recorded ExecLogin where
  shape := ExecLogin.shape
  toVal := ExecLogin.toVal
  ofVal := ExecLogin.ofVal
  ofVal_toVal _ := rfl

abbrev Access.shape : Shape :=
  .record "struct ClusterAccess" <|
    .textOrNull "host" <| .textOrNull "username" <| .textOrNull "password" <|
    .optional "insecure" .flag <| .textOrNull "tls_server_name" <|
    .textOrNull "client_certificate" <| .textOrNull "client_key" <|
    .textOrNull "cluster_ca_certificate" <| .required "config_paths" (.nullable .texts) <|
    .textOrNull "config_path" <| .textOrNull "config_context" <|
    .textOrNull "config_context_auth_info" <| .textOrNull "config_context_cluster" <|
    .textOrNull "token" <| .textOrNull "proxy_url" <|
    .required "exec" (.nullable ExecLogin.shape) .nil

def Access.toVal (a : Access) : Access.shape.Val :=
  (a.host, a.username, a.password, some a.insecure, a.tlsServerName, a.clientCertificate,
    a.clientKey, a.authority, a.paths, a.path, a.context, a.contextUser, a.contextCluster,
    a.token, a.proxyUrl, a.exec.map ExecLogin.toVal, ())

def Access.ofVal : Access.shape.Val → Access
  | (h, u, p, i, t, cc, ck, ca, ps, pa, x, xu, xc, tk, px, e, ()) =>
    { host := h, username := u, password := p, insecure := i.getD false, tlsServerName := t
      clientCertificate := cc, clientKey := ck, authority := ca, paths := ps, path := pa
      context := x, contextUser := xu, contextCluster := xc, token := tk, proxyUrl := px
      exec := Option.map ExecLogin.ofVal e }

theorem Access.ofVal_toVal (a : Access) : ofVal a.toVal = a := by
  cases a with
  | mk _ _ _ _ _ _ _ _ _ _ _ _ _ _ _ e => cases e <;> rfl

instance : Recorded Access where
  shape := Access.shape
  toVal := Access.toVal
  ofVal := Access.ofVal
  ofVal_toVal := Access.ofVal_toVal

abbrev Settings.fields : Fields :=
  .optional "local_host" (.text "a string") <| .optional "local_port" .word16 <|
  .text "namespace" <| .text "service" <| .required "target_port" .word16 <|
  .optional "access" Access.shape .nil

def Settings.toVal (s : Settings) : Settings.fields.Val :=
  (some s.localHost, some s.localPort, s.nspace, s.service, s.targetPort, some s.access.toVal, ())

def Settings.ofVal : Settings.fields.Val → Settings
  | (lh, lp, n, s, tp, a, ()) =>
    ⟨lh.getD "localhost", lp.getD (0 : UInt16), n, s, tp, (a.map Access.ofVal).getD {}⟩

theorem Settings.ofVal_toVal (s : Settings) : ofVal s.toVal = s := by
  cases s with
  | mk lh lp n sv tp a => exact congrArg (Settings.mk lh lp n sv tp) (Access.ofVal_toVal a)

abbrev Settings.shape : Shape := .record "struct ClusterConfig" Settings.fields

instance : Recorded Settings where
  shape := Settings.shape
  toVal := Settings.toVal
  ofVal := Settings.ofVal
  ofVal_toVal := Settings.ofVal_toVal

abbrev Assignment.fields : Fields := .required "config" Settings.shape <| .text "pod" .nil

def Assignment.toVal (a : Assignment) : Assignment.fields.Val := (a.settings.toVal, a.pod, ())

def Assignment.ofVal : Assignment.fields.Val → Assignment
  | (s, p, ()) => ⟨.ofVal s, p⟩

theorem Assignment.ofVal_toVal (a : Assignment) : ofVal a.toVal = a := by
  cases a with
  | mk s p => exact congrArg (Assignment.mk · p) (Settings.ofVal_toVal s)

instance : Recorded Assignment where
  shape := .record "struct ClusterWorker" Assignment.fields
  toVal := Assignment.toVal
  ofVal := Assignment.ofVal
  ofVal_toVal := Assignment.ofVal_toVal

end PortTunnel.Cluster
