import PortTunnel.Session.Rehearsal
import PortTunnel.Surroundings
import PortTunnel.Worker

/-!
# Rehearsals of workers

Runs of whole workers in given surroundings, on a machine whose programs are scripts.

* `Worker.rehearse`: a worker from its launch on.
* `Worker.itself`: the program of a worker, as a machine starts it.
-/

namespace PortTunnel.Worker

open Machine (Environment Files Processes Starter)
open Session (Shutdown)

structure Rehearsal where
  /-- None if the worker goes on. -/
  result : Option (Except Error Unit)
  /-- The milliseconds from its start to its end. -/
  endedAt : Nat := 0
  files : Files
  /-- What the program of a session has written to where the worker writes. -/
  output : List UInt8 := []

/-- Whether a worker that only waits is told to shut down. -/
def isTold (files : Files) : Shutdown → Bool
  | .never => false
  | .before => true
  | .once place => (files.find? place).isSome

/-- What a bastion makes of a session before anybody uses it. -/
def sshReports (s : Ssh.Settings) : Ssh.Bastion → List Forward.Event
  | .serving rules =>
    match (Ssh.Engine.remote rules s).gone with
    | some e => [.reported e, .noticed]
    | none => []
  | _ => []

/-- The events of a tunnel that nobody uses. -/
def quietEvents {ε : Type} (asked shutdown : ε) (told : Bool) : List ε :=
  if told then [asked, shutdown] else []

theorem heard_sshReports {s : Ssh.Settings} {bastion : Ssh.Bastion} {told : Bool} {e : Error}
    (h : .reported e ∈ sshReports s bastion ++ quietEvents .asked .shutdown told) :
    e = Ssh.Engine.lost s := by
  rcases List.mem_append.mp h with hreport | hquiet
  · unfold sshReports at hreport
    split at hreport
    · split at hreport
      next gone hgone =>
        simp only [List.mem_cons, Forward.Event.reported.injEq, reduceCtorEq, List.not_mem_nil,
          or_false] at hreport
        exact Ssh.Engine.eq_lost_of_gone (hreport ▸ hgone)
      next => cases hreport
    · cases hreport
  · cases told <;> simp [quietEvents] at hquiet

/-- What the engine of a forwarding tunnel meets with if nobody uses it. -/
def sshCourse (s : Surroundings) (files : Files) (told : Bool) (settings : Ssh.Settings) :
    Course (.ssh settings) :=
  .ssh (Ssh.Engine.startup s.network (fun _ => true) files s.bastion settings)
    (sshReports settings s.bastion ++ quietEvents .asked .shutdown told)
    fun _ => heard_sshReports

def clusterCourse (s : Surroundings) (files : Files) (env : Environment) (told : Bool)
    (a : Cluster.Assignment) : Course (.cluster a) :=
  .cluster
    (Cluster.Engine.startup s.network
      (Cluster.connect (s.toolkit files env.texts) a.settings.access)
      (Cluster.connect_engines (s.toolkit files env.texts) a.settings.access) a)
    (quietEvents .asked .shutdown told)

def sessionCourse (files : Files) (env : Environment) (guarded : Bool) (shutdown : Shutdown)
    (a : Session.Assignment) : Course (.session a) :=
  match Session.encounter files env shutdown guarded Lifecycle.closingLimit a with
  | (spawned, schedule) => .session spawned schedule

/-- What the engine of an assignment meets with. -/
def courseOf (s : Surroundings) (files : Files) (env : Environment) (guarded : Bool)
    (shutdown : Shutdown) : (a : Assignment) → Course a
  | .ssh settings => sshCourse s files (isTold files shutdown) settings
  | .session a => sessionCourse files env guarded shutdown a
  | .cluster a => clusterCourse s files env (isTold files shutdown) a

/-- Only the program of a session leaves something behind. -/
def rehearse (s : Surroundings) (files : Files) (env : Environment) (ps : Processes) (self : Nat)
    (shutdown : Shutdown) (launch : Launch) : Rehearsal :=
  let course := courseOf s files env ps.guarded shutdown launch.assignment
  let worker : Rehearsal := { result := (run ps self launch course).2, files := files }
  match (watchdog launch self).spawn ps, launch.assignment with
  | .ok _, .session a =>
    let limit := Lifecycle.closingLimit
    match Session.rehearse files env shutdown ps.guarded limit ready.lifecycle a with
    | some r =>
      { worker with endedAt := r.run.fate.reached.getD 0, files := r.files, output := r.output }
    | none => worker
  | _, _ => worker

/-- The exit code for a result. -/
def exitCode : Except Error Unit → Nat
  | .ok _ => 0
  | .error _ => 1

/-- Starts this program as a worker; nobody tells it to shut down while it is watched. -/
def itself (s : Surroundings) (ps : Processes) : Starter := fun files c watchedMs =>
  match Launch.ofEnvironment c.env c.args with
  | (env, .ok (some launch)) =>
    let r := rehearse s files env ps ps.nextPid .never launch
    match r.result with
    | some result =>
      if r.endedAt ≤ watchedMs then .ok ⟨r.output, .exited (.code (exitCode result))⟩
      else .ok ⟨r.output, .running false⟩
    | none => .ok ⟨r.output, .running false⟩
  | _ => .ok ⟨[], .exited (.code 1)⟩

end PortTunnel.Worker
