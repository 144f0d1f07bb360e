import PortTunnel.Settings

/-!
# Assignments

What a worker process is told to do: the settings of its tunnel and what was found out
before it was started.

* `Assignment`: one assignment of any kind.
* `Assignment.identity`, `Assignment.logName`: what the tunnel leads to, and the name of
  its log.
-/

namespace PortTunnel

open Schema

inductive Assignment where
  | ssh (settings : Ssh.Settings)
  | session (work : Session.Assignment)
  | cluster (work : Cluster.Assignment)
  deriving DecidableEq, Repr

namespace Assignment

def settings : Assignment → Settings
  | .ssh s => .ssh s
  | .session w => .session w.settings
  | .cluster w => .cluster w.settings

def kind (a : Assignment) : Kind := a.settings.kind

def localHost : Assignment → String
  | .ssh s => s.localHost
  | .session _ => Settings.sessionHost
  | .cluster w => w.settings.localHost

def localPort : Assignment → UInt16
  | .ssh s => s.localPort
  | .session w => w.settings.localPort
  | .cluster w => w.settings.localPort

def targetPort : Assignment → UInt16
  | .ssh s => s.targetPort
  | .session w => w.settings.targetPort
  | .cluster w => w.settings.targetPort

/-- What the tunnel leads to: a host, an instance or a service. -/
def identity : Assignment → String
  | .ssh s => s.targetHost
  | .session w => w.settings.inst
  | .cluster w => w.settings.service

/-- How long a new worker is watched before it counts as up, in milliseconds. -/
def graceMs : Assignment → Nat
  | .ssh _ => 5000
  | .session _ => 5000
  | .cluster _ => 2000

/-- A worker is only started on a port that is known. -/
def requirePort (a : Assignment) : Except Error Unit :=
  if a.localPort = 0 then .error (.config "local port must be resolved before launch") else .ok ()

/-! ## Name of the log -/

/-- Whether a character stands for itself in the name of a log. -/
def isLogChar (c : Char) : Bool := c.isAlphanum || c = '.' || c = '-' || c = '_'

/-- The identity with every other character replaced. -/
def logIdentity (a : Assignment) : String :=
  String.ofList (a.identity.toList.map fun c => if isLogChar c then c else '_')

def logName (a : Assignment) : String :=
  s!"{a.kind.marker}-tunnel-{a.logIdentity}-{a.targetPort.toNat}.log"

/-! ## Written form -/

abbrev shape : Shape :=
  .union "WorkerPayload" "type" <|
    .case "ssh" "struct SshConfig" Ssh.Settings.fields <|
    .case "ssm" "struct SessionWorker" Session.Assignment.fields <|
    .case "kubernetes" "struct ClusterWorker" Cluster.Assignment.fields .nil

def toVal : Assignment → shape.Val
  | .ssh s => .inl s.toVal
  | .session w => .inr (.inl w.toVal)
  | .cluster w => .inr (.inr (.inl w.toVal))

def ofVal : shape.Val → Assignment
  | .inl v => .ssh (.ofVal v)
  | .inr (.inl v) => .session (.ofVal v)
  | .inr (.inr (.inl v)) => .cluster (.ofVal v)

theorem ofVal_toVal (a : Assignment) : ofVal a.toVal = a := by
  cases a with
  | ssh s => exact congrArg Assignment.ssh (Ssh.Settings.ofVal_toVal s)
  | session w => rfl
  | cluster w => exact congrArg Assignment.cluster (Cluster.Assignment.ofVal_toVal w)

instance : Recorded Assignment where
  shape := shape
  toVal := toVal
  ofVal := ofVal
  ofVal_toVal := ofVal_toVal

end Assignment

end PortTunnel
