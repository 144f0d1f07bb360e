import PortTunnel.Cluster.Client
import PortTunnel.Open
import PortTunnel.Session.Client
import PortTunnel.Session.Registry
import PortTunnel.Ssh.Engine
import PortTunnel.Teardown

/-!
# Surroundings

What the program finds around the machine that it runs on, as far as it talks to it.

* `Surroundings`: the network, and who is there.
* `Surroundings.services`: the services that tunnels are opened with.
* `Surroundings.seenByOpen`, `Surroundings.seenByClose`: what those who are there see of an
  attempt to open or to close a tunnel.
-/

namespace PortTunnel

open Machine (Files Network)
open Text (TextTable)

structure Surroundings where
  network : Network
  /-- The servers of clusters, by the port of the machine. -/
  servers : UInt16 → Option Cluster.Server := fun _ => none
  /-- The session service, if it can be reached. -/
  service : Option Session.Service := none
  bastion : Ssh.Bastion := .closed
  /-- A port that nobody listens on. -/
  freePort : UInt16 := 40000

namespace Surroundings

def allocate (s : Surroundings) : Allocator := fun host =>
  (s.network.listen host).map fun _ => s.freePort

/-- The library for clusters. -/
def toolkit (s : Surroundings) (files : Files) (env : TextTable) :
    Cluster.Toolkit Cluster.Connection Cluster.Client :=
  Cluster.toolkit files env s.network s.servers

def session (s : Surroundings) (role : Option String) : Session.Client := ⟨role, s.service⟩

/-- The broker of an account. There is one service, whatever the region and the profile. -/
def connect (s : Surroundings) : Session.Connector := fun account =>
  (s.session account.roleArn).sdk.broker

def services (s : Surroundings) (files : Files) (env : TextTable) : Open.Services where
  broker settings := s.connect settings.account
  api := (s.toolkit files env).reach

/-! ## What is seen -/

inductive Sight where
  | request (request : Cluster.Request)
  | message (message : Session.Message)
  deriving DecidableEq, Repr

/-- What is seen of calls to a cluster. -/
def seenByCluster (s : Surroundings) (files : Files) (env : TextTable) (access : Cluster.Access)
    (calls : List Cluster.Call) : List Sight :=
  match Cluster.connect (s.toolkit files env) access with
  | .ok c => (c.requests (calls.map Cluster.Resource.ofCall)).map .request
  | .error _ => []

/-- What is seen of calls to the session service. -/
def seenByService (s : Surroundings) (role : Option String) (calls : List Session.Call) :
    List Sight :=
  ((s.session role).messages calls).map .message

def seenByOpen (s : Surroundings) (files : Files) (env : TextTable) (settings : Settings)
    (o : Open.Outcome) : List Sight :=
  match settings with
  | .ssh _ => []
  | .session settings => s.seenByService settings.roleArn o.sessionCalls
  | .cluster settings => s.seenByCluster files env settings.access o.clusterCalls

def seenByClose (s : Surroundings) (receipt : Option Session.Receipt) (c : Closed) : List Sight :=
  match receipt with
  | none => []
  | some receipt => s.seenByService receipt.roleArn c.calls

/-- The broker of the place where a session lives. -/
def brokerFor (s : Surroundings) (receipt : Session.Receipt) : Session.Broker :=
  (Session.Registry.ofReceipt? (some receipt)).brokerFor s.connect receipt

end Surroundings

end PortTunnel
