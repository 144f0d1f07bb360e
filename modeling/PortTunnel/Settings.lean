import PortTunnel.Cluster.Settings
import PortTunnel.Error
import PortTunnel.Kind
import PortTunnel.Session.Settings
import PortTunnel.Ssh.Settings
import PortTunnel.Text.Blank

/-!
# Settings of a tunnel

* `Settings`: the settings of one tunnel, of any kind.
* `Settings.validate`: refuses settings no worker could run on, at the first check that
  fails.
* `Ssh.Credential.ofParts`: a credential from the parts that a person gives.
-/

namespace PortTunnel

open Schema

inductive Settings where
  | ssh (settings : Ssh.Settings)
  | session (settings : Session.Settings)
  | cluster (settings : Cluster.Settings)
  deriving DecidableEq, Repr

namespace Settings

def kind : Settings → Kind
  | .ssh _ => .ssh
  | .session _ => .session
  | .cluster _ => .cluster

/-- The host on which sessions listen; the program that carries them leaves no choice. -/
def sessionHost : String := "localhost"

def localHost : Settings → String
  | .ssh s => s.localHost
  | .session _ => sessionHost
  | .cluster s => s.localHost

def localPort : Settings → UInt16
  | .ssh s => s.localPort
  | .session s => s.localPort
  | .cluster s => s.localPort

def withLocalPort (port : UInt16) : Settings → Settings
  | .ssh s => .ssh { s with localPort := port }
  | .session s => .session { s with localPort := port }
  | .cluster s => .cluster { s with localPort := port }

@[simp] theorem localPort_withLocalPort (p : UInt16) (s : Settings) :
    (s.withLocalPort p).localPort = p := by cases s <;> rfl

@[simp] theorem localHost_withLocalPort (p : UInt16) (s : Settings) :
    (s.withLocalPort p).localHost = s.localHost := by cases s <;> rfl

end Settings

/-! ## Validation -/

/-- A text that must not be blank. -/
def requireText (field value : String) : Except Error Unit :=
  if Text.isBlankText value then .error (.config s!"{field} is required") else .ok ()

/-- A port that must not be zero. -/
def requirePort (field : String) (port : UInt16) : Except Error Unit :=
  if port = 0 then .error (.config s!"{field} must be non-zero") else .ok ()

def Ssh.Credential.validate : Ssh.Credential → Except Error Unit
  | .password _ => .ok ()
  | .privateKey material => requireText "ssh private key" material
  | .encryptedPrivateKey material _ => requireText "ssh private key" material

/-- The local port may still be zero. -/
def Settings.validate : Settings → Except Error Unit
  | .ssh s => do
    requireText "bastion host" s.bastionHost
    requireText "ssh user" s.user
    requireText "target host" s.targetHost
    requirePort "bastion port" s.bastionPort
    requirePort "target port" s.targetPort
    s.credential.validate
  | .session s => do
    requireText "instance" s.inst
    requireText "region" s.region
    requireText "target host" s.targetHost
    requirePort "target port" s.targetPort
  | .cluster s => do
    requireText "namespace" s.nspace
    requireText "service" s.service
    requireText "local host" s.localHost
    requirePort "target port" s.targetPort

/-- Either a password or a key is given, and a passphrase only along with a key. -/
def Ssh.Credential.ofParts (password key passphrase : Option String) :
    Except Error Ssh.Credential :=
  match password, key, passphrase with
  | some _, some _, _ => .error (.config "ssh password and private key are mutually exclusive")
  | some _, none, some _ => .error (.config "ssh key passphrase given without a private key")
  | some password, none, none => .ok (.password password)
  | none, some material, none => .ok (.privateKey material)
  | none, some material, some passphrase => .ok (.encryptedPrivateKey material passphrase)
  | none, none, _ => .error (.config "either an ssh password or a private key is required")

/-! ## Written form -/

namespace Settings

abbrev shape : Shape :=
  .union "TunnelConfig" "type" <|
    .case "ssh" "struct SshConfig" Ssh.Settings.fields <|
    .case "ssm" "struct SessionConfig" Session.Settings.fields <|
    .case "kubernetes" "struct ClusterConfig" Cluster.Settings.fields .nil

def toVal : Settings → shape.Val
  | .ssh s => .inl s.toVal
  | .session s => .inr (.inl s.toVal)
  | .cluster s => .inr (.inr (.inl s.toVal))

def ofVal : shape.Val → Settings
  | .inl v => .ssh (.ofVal v)
  | .inr (.inl v) => .session (.ofVal v)
  | .inr (.inr (.inl v)) => .cluster (.ofVal v)

theorem ofVal_toVal (s : Settings) : ofVal s.toVal = s := by
  cases s with
  | ssh s => exact congrArg Settings.ssh (Ssh.Settings.ofVal_toVal s)
  | session s => rfl
  | cluster s => exact congrArg Settings.cluster (Cluster.Settings.ofVal_toVal s)

instance : Recorded Settings where
  shape := shape
  toVal := toVal
  ofVal := ofVal
  ofVal_toVal := ofVal_toVal

end Settings

end PortTunnel
