import PortTunnel.Cluster.Service
import PortTunnel.Handle
import PortTunnel.Launcher
import PortTunnel.Lifecycle
import PortTunnel.Port
import PortTunnel.Session.Broker

/-!
# Opening tunnels

What has to be found out is found out before a worker is started, so that a worker is told
everything that it needs.

* `Open.launch`: starts the worker of an assignment.
* `Open.session`: starts a session and its worker; the session is ended again if the worker
  does not come up.
* `Open.cluster`: finds the pod of a service and starts its worker.
* `Open.tunnel`: all of it, from the settings of a tunnel.
-/

namespace PortTunnel.Open

open Launcher (System Options)

/-- What is needed to start workers. -/
structure Launchpad extends Launcher.Means where
  options : Options

/-- What came of an attempt to open a tunnel. -/
structure Outcome where
  system : System
  lifecycle : Lifecycle
  sessionCalls : List Session.Call := []
  clusterCalls : List Cluster.Call := []
  result : Except Error Handle

/-- The handle of a worker that is up. -/
def handleOf (w : Launcher.Worker) : Handle :=
  ⟨w.localHost, w.localPort, UInt32.ofNat w.pid, w.logPath, none⟩

def launch (pad : Launchpad) (sys : System) (l : Lifecycle) (a : Assignment) : Outcome :=
  match Launcher.fork pad.toMeans sys a pad.options with
  | (sys, .error e) => { system := sys, lifecycle := l, result := .error e }
  | (sys, .ok worker) =>
    match l.transition .ready with
    | (l, .error e) => { system := sys, lifecycle := l, result := .error e }
    | (l, .ok _) => { system := sys, lifecycle := l, result := .ok (handleOf worker) }

/-- Whether the end of a session succeeds is of no concern: the error of the launch is what
is reported. -/
def sessionTalk (pad : Launchpad) (broker : Session.Broker) (sys : System) (l : Lifecycle)
    (s : Session.Settings) : Session.Talk Outcome := do
  match ← broker.preflight s with
  | .error e => return { system := sys, lifecycle := l, result := .error e }
  | .ok work =>
    let receipt := s.receipt work.grant.sessionId
    let launched := launch pad sys l (.session work)
    match launched.result with
    | .ok handle => return { launched with result := .ok { handle with session := some receipt } }
    | .error e =>
      let _ ← broker.endSession receipt.sessionId
      return { launched with result := .error e }

def session (pad : Launchpad) (broker : Session.Broker) (sys : System) (l : Lifecycle)
    (s : Session.Settings) : Outcome :=
  let (outcome, calls) := sessionTalk pad broker sys l s []
  { outcome with sessionCalls := calls }

def cluster (pad : Launchpad) (api : Cluster.Api) (sys : System) (l : Lifecycle)
    (s : Cluster.Settings) : Outcome :=
  match Cluster.preflight api s with
  | (asked, .error e) => { system := sys, lifecycle := l, clusterCalls := asked, result := .error e }
  | (asked, .ok work) => { launch pad sys l (.cluster work) with clusterCalls := asked }

/-- How the services are reached that tunnels are opened with. -/
structure Services where
  broker : Session.Settings → Session.Broker
  api : Cluster.Access → Except Error Cluster.Api

/-- Opens the tunnel of settings that were prepared. -/
def prepared (pad : Launchpad) (services : Services) (sys : System) (l : Lifecycle) :
    Settings → Outcome
  | .ssh s => launch pad sys l (.ssh s)
  | .session s => session pad (services.broker s) sys l s
  | .cluster s =>
    match services.api s.access with
    | .error e => { system := sys, lifecycle := l, result := .error e }
    | .ok api => cluster pad api sys l s

/-- A tunnel that could not be opened has failed. -/
def Outcome.settle (o : Outcome) : Outcome :=
  match o.result with
  | .ok _ => o
  | .error _ => { o with lifecycle := o.lifecycle.fail }

def tunnel (pad : Launchpad) (services : Services) (allocate : Allocator) (sys : System)
    (s : Settings) : Outcome :=
  let l : Lifecycle := {}
  match prepare allocate s with
  | .error e => { system := sys, lifecycle := l, result := .error e }
  | .ok s =>
    match l.transition .starting with
    | (l, .error e) => { system := sys, lifecycle := l, result := .error e }
    | (l, .ok _) => (prepared pad services sys l s).settle

end PortTunnel.Open
