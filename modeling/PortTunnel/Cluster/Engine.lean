import PortTunnel.Cluster.Client
import PortTunnel.Forward.Engine
import PortTunnel.Forward.Listener
import PortTunnel.Forward.Rehearsal

/-!
# The engine of a cluster tunnel

Each connection is carried over a port-forward of its own to one pod. If that fails, the pod
is looked up: one that is gone for good ends the tunnel, any other failure ends only the
connection.

* `Lookup.verdict`: what a look at the pod means for the tunnel.
* `Engine.step`: the forwarding loop with connections of this kind.
* `Engine.prepare`, `Engine.Startup`: what is done before the tunnel runs, and how it goes.
* `Engine.remote`: the cluster as clients of the tunnel see it.
-/

namespace PortTunnel.Cluster

open Forward (Fare Listener Loop Remote)
open Machine (Network)

/-- What a look at a pod has shown. -/
inductive Lookup where
  /-- There was no answer that could be read, for a reason in the words of the library. -/
  | unreachable (reason : String)
  | missing
  | found (pod : Pod)
  deriving DecidableEq, Repr

namespace Lookup

/-- Phases in which a pod serves no more. -/
def isOver (phase : String) : Bool := phase = "Succeeded" || phase = "Failed"

/-- Why a tunnel to a pod cannot go on, if it cannot. -/
def verdict (name : String) : Lookup → Option Error
  | .unreachable reason => some (.engine s!"cannot reach the API server: {reason}")
  | .missing => some (.engine s!"pod {name} no longer exists")
  | .found pod =>
    if pod.terminating then some (.engine s!"pod {name} is terminating")
    else match pod.phase with
      | some phase => if isOver phase then some (.engine s!"pod {name} has stopped ({phase})") else none
      | none => none

end Lookup

def Client.lookUp (c : Client) (nspace name : String) : Lookup :=
  match c.answer (.pod nspace name) Answer.pod? with
  | .ok (some pod) => .found pod
  | .ok none => .missing
  | .error reason => .unreachable reason

namespace Engine

/-! ## Connections -/

/-- What the task of a connection meets with. -/
inductive Passage where
  /-- There was no port-forward, so the pod was looked up. -/
  | refused (lookup : Lookup)
  | noStream
  /-- Bytes were carried, until both sides were done or something failed. -/
  | carried (well : Bool)
  deriving DecidableEq, Repr

/-- What a connection reports about the tunnel as a whole. -/
def Passage.report? (name : String) : Passage → Option Error
  | .refused lookup => lookup.verdict name
  | _ => none

inductive Event where
  | accepted
  | acceptFailed
  /-- The task of an open connection meets with something. -/
  | met (id : Nat) (passage : Passage)
  | ended (id : Nat)
  | noticed
  | asked
  | shutdown
  | expired
  deriving DecidableEq, Repr

/-- One event of a tunnel to a pod. -/
def step (name : String) (s : Loop) : Event → Loop
  | .accepted => s.step .accepted
  | .acceptFailed => s.step .acceptFailed
  | .met id passage =>
    match passage.report? name with
    | some e => if id ∈ s.live then s.step (.reported e) else s
    | none => s
  | .ended id => s.step (.ended id)
  | .noticed => s.step .noticed
  | .asked => s.step .asked
  | .shutdown => s.step .shutdown
  | .expired => s.step .expired

def run (name : String) (s : Loop) (events : List Event) : Loop := events.foldl (step name) s

/-! ## Before the tunnel runs -/

/-- The client and the listener of a tunnel; the client comes first. -/
def prepare (n : Network) (connect : Access → Except Error Client) (a : Assignment) :
    Except Error (Client × Listener) := do
  let client ← connect a.settings.access
  let listener ← Listener.bind n a.settings.localHost a.settings.localPort
  .ok (client, listener)

/-- How the steps before the tunnel runs go. -/
structure Startup where
  connected : Attempt
  bound : Attempt

def Startup.steps (s : Startup) : List (Milestone × Attempt) :=
  [(.connected, s.connected), (.bound, s.bound)]

/-- How the steps go on a network, for a client that was or was not found. -/
def startup (n : Network) (client : Except Error Client) (h : Error.OnlyEngines client)
    (a : Assignment) : Startup where
  connected := .of client h
  bound := .of (Listener.bind n a.settings.localHost a.settings.localPort)
    (Listener.bind_engines n _ _)

/-! ## The cluster behind the tunnel -/

/-- A connection to a pod, with the requests that it takes. -/
def carry (c : Client) (a : Assignment) : List Request × Passage :=
  let forward := Resource.portForward a.settings.nspace a.pod a.settings.targetPort
  if c.forwards forward then (c.requests [forward], .carried true)
  else
    (c.requests [forward, .pod a.settings.nspace a.pod],
      .refused (c.lookUp a.settings.nspace a.pod))

/-- What a client sees of a connection. -/
def Passage.fare (name : String) (p : Passage) : Fare :=
  match p, p.report? name with
  | .carried true, _ => .carried
  | _, some e => .fatal e
  | _, none => .lost

def remote (c : Client) (a : Assignment) : Remote Request where
  carry _ :=
    let (requests, passage) := carry c a
    (requests, passage.fare a.pod)

end Engine

end PortTunnel.Cluster
