import PortTunnel.Cluster.Engine
import PortTunnel.Launch
import PortTunnel.Session.Engine
import PortTunnel.Ssh.Engine
import PortTunnel.Watchdog

/-!
# Workers

A worker watches the process that it belongs to and runs the engine of its tunnel. Its
lifecycle begins where the launch has left it: ready, but not running yet.

* `Worker.Course`: what the engine of an assignment meets with.
* `Worker.conclude`: the end of a tunnel, by the result of its engine.
* `Worker.engage`, `Worker.run`: a worker from its engine on, and from its start.
-/

namespace PortTunnel.Worker

open Machine (Fault Processes)

/-- What an engine meets with: how its steps go, and what happens then. The events may come in any
order; only the loss of its session is ever reported to an SSH engine. -/
inductive Course : Assignment → Type where
  | ssh {s : Ssh.Settings} (startup : Ssh.Engine.Startup) (events : List Forward.Event)
    (heard : ∀ e, .reported e ∈ events → e = Ssh.Engine.lost s) : Course (.ssh s)
  | session {a : Session.Assignment} (spawned : Except Fault Session.Plugin)
    (schedule : Session.Schedule) : Course (.session a)
  | cluster {a : Cluster.Assignment} (startup : Cluster.Engine.Startup)
    (events : List Cluster.Engine.Event) : Course (.cluster a)

/-- The engine of an assignment, with its result if it comes to an end. -/
def Course.run (p : Progress) :
    {a : Assignment} → Course a → Progress × Option (Except Error Unit)
  | _, .ssh startup events _ => Forward.engine Forward.Loop.step startup.steps events p
  | .session a, .session spawned schedule =>
    match Session.Engine.run spawned schedule p a with
    | some r => (r.progress, some r.result)
    | none => ((Session.Engine.begin spawned p a).1, none)
  | .cluster a, .cluster startup events =>
    Forward.engine (Cluster.Engine.step a.pod) startup.steps events p

/-- What the engine of a worker starts from. -/
def ready : Progress := { lifecycle := ⟨.ready⟩ }

/-- The tunnel of an engine that ended well is closed, any other has failed. -/
def conclude (p : Progress) : Except Error Unit → Progress × Except Error Unit
  | .ok _ => p.beginClose.transition .closed
  | .error e => (p.fail, .error e)

/-- A worker from its engine on, with its result if it comes to an end. -/
def engage {a : Assignment} (course : Course a) : Progress × Option (Except Error Unit) :=
  match course.run ready with
  | (p, none) => (p, none)
  | (p, some result) =>
    match conclude p result with
    | (p, result) => (p, some result)

/-- The watchdog of a worker: the parent is watched, and the worker told to end. -/
def watchdog (launch : Launch) (self : Nat) : Watchdog :=
  { parent := launch.parentPid.toNat, target := self }

/-- A worker from its start on. Without its parent it does not begin. -/
def run (ps : Processes) (self : Nat) (launch : Launch) (course : Course launch.assignment) :
    Progress × Option (Except Error Unit) :=
  match (watchdog launch self).spawn ps with
  | .error e => (ready, some (.error e))
  | .ok _ => engage course

end PortTunnel.Worker
