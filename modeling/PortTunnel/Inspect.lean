import PortTunnel.Assignment
import PortTunnel.Handle
import PortTunnel.Text.Quoted

/-!
# Inspection

How values are shown to a person, on one line and without their secrets: passwords, keys,
passphrases and tokens are replaced or left out, whether they are set or not.

* `Inspect.shown`: the text of a value.
-/

namespace PortTunnel

open Text (TextTable)

class Inspect (α : Type) where
  shown : α → String

namespace Inspect

def withheld : String := "<redacted>"

/-- A record with its fields. -/
def record (name : String) (fields : List (String × String)) : String :=
  name ++ " \x7b " ++ ", ".intercalate (fields.map fun f => f.1 ++ ": " ++ f.2) ++ " \x7d"

/-- A record that has more fields than it shows. -/
def openRecord (name : String) (fields : List (String × String)) : String :=
  name ++ " \x7b " ++ ", ".intercalate (fields.map fun f => f.1 ++ ": " ++ f.2) ++ ", .. \x7d"

def call (name argument : String) : String := s!"{name}({argument})"

def maybe {α : Type} (shown : α → String) : Option α → String
  | some a => call "Some" (shown a)
  | none => "None"

def list {α : Type} (shown : α → String) (xs : List α) : String :=
  "[" ++ ", ".intercalate (xs.map shown) ++ "]"

def text (s : String) : String := Text.Quoted.quote s

/-- A path, in which apostrophes are escaped as well. -/
def path (s : String) : String :=
  let escape (c : Char) : List Char := if c = '\'' then ['\\', c] else Text.Quoted.escape c
  String.ofList ('"' :: s.toList.flatMap escape ++ ['"'])

def flag (b : Bool) : String := if b then "true" else "false"

def table (t : TextTable) : String :=
  "\x7b" ++ ", ".intercalate (t.entries.map fun e => text e.1 ++ ": " ++ text e.2) ++ "\x7d"

def port (p : UInt16) : String := toString p.toNat

end Inspect

open Inspect

instance : Inspect Ssh.Credential where
  shown
    | .password _ => call "Password" withheld
    | .privateKey _ => call "PrivateKey" withheld
    | .encryptedPrivateKey _ _ => call "EncryptedPrivateKey" withheld

instance : Inspect Ssh.Settings where
  shown s := record "SshConfig" [
    ("local_host", text s.localHost), ("local_port", port s.localPort),
    ("bastion_host", text s.bastionHost), ("bastion_port", port s.bastionPort),
    ("user", text s.user), ("credential", Inspect.shown s.credential),
    ("target_host", text s.targetHost), ("target_port", port s.targetPort)]

instance : Inspect Session.Settings where
  shown s := record "SessionConfig" [
    ("instance", text s.inst), ("region", text s.region), ("profile", maybe text s.profile),
    ("role_arn", maybe text s.roleArn), ("target_host", text s.targetHost),
    ("target_port", port s.targetPort), ("local_port", port s.localPort),
    ("plugin", maybe text s.plugin)]

instance : Inspect Session.Grant where
  shown g := record "RemoteSession" [
    ("session_id", text g.sessionId), ("token_value", text withheld),
    ("stream_url", text g.streamUrl)]

instance : Inspect Session.Receipt where
  shown r := record "SessionRecord" [
    ("session_id", text r.sessionId), ("region", text r.region),
    ("profile", maybe text r.profile), ("role_arn", maybe text r.roleArn)]

instance : Inspect Session.Assignment where
  shown a := record "SessionWorker" [
    ("config", Inspect.shown a.settings), ("session", Inspect.shown a.grant)]

instance : Inspect Cluster.ExecLogin where
  shown e := record "ExecCredential" [
    ("api_version", text e.apiVersion), ("command", text e.command),
    ("env", maybe table e.env), ("args", maybe (list text) e.args)]

instance : Inspect Cluster.Access where
  shown a := openRecord "ClusterAccess" [
    ("host", maybe text a.host), ("username", maybe text a.username),
    ("insecure", flag a.insecure), ("tls_server_name", maybe text a.tlsServerName),
    ("config_paths", maybe (list text) a.paths), ("config_path", maybe text a.path),
    ("config_context", maybe text a.context),
    ("config_context_auth_info", maybe text a.contextUser),
    ("config_context_cluster", maybe text a.contextCluster),
    ("proxy_url", maybe text a.proxyUrl), ("exec", maybe Inspect.shown a.exec)]

instance : Inspect Cluster.Settings where
  shown s := record "ClusterConfig" [
    ("local_host", text s.localHost), ("local_port", port s.localPort),
    ("namespace", text s.nspace), ("service", text s.service),
    ("target_port", port s.targetPort), ("access", Inspect.shown s.access)]

instance : Inspect Cluster.Assignment where
  shown a := record "ClusterWorker" [
    ("config", Inspect.shown a.settings), ("pod", text a.pod)]

instance : Inspect Settings where
  shown
    | .ssh s => call "Ssh" (Inspect.shown s)
    | .session s => call "Session" (Inspect.shown s)
    | .cluster s => call "Cluster" (Inspect.shown s)

instance : Inspect Assignment where
  shown
    | .ssh s => call "Ssh" (Inspect.shown s)
    | .session w => call "Session" (Inspect.shown w)
    | .cluster w => call "Cluster" (Inspect.shown w)

instance : Inspect Handle where
  shown h := record "TunnelHandle" [
    ("local_host", text h.localHost), ("local_port", port h.localPort),
    ("pid", toString h.pid.toNat), ("log_path", path h.logPath),
    ("session", maybe Inspect.shown h.session)]

end PortTunnel
