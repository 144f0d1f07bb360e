import PortTunnel.Machine.Fault
import PortTunnel.Machine.Process
import PortTunnel.Progress
import PortTunnel.Session.Request

/-!
# The engine of a session tunnel

A program carries the session; the engine waits for it to end or for a shutdown, whatever
comes first. Times are milliseconds from the start of the program.

* `Plugin`: how a program behaves, left alone and after an interrupt.
* `Schedule`: when the shutdown comes, and what the system allows.
* `Engine.begin`: the start of the program, from which on the tunnel runs.
* `Engine.run`: the run of an engine, if it comes to an end.
-/

namespace PortTunnel.Session

open Machine (ExitStatus Fault)

/-- An end of a program: when, and how, unless the system refuses to tell. -/
structure Ending where
  time : Nat
  status : Except Fault ExitStatus

structure Plugin where
  /-- Its end if it is left alone; none if it never ends. -/
  ending : Option Ending
  /-- Its end after an interrupt at a time; none if it goes on. -/
  reaction : (time : Nat) → Option Ending

structure Schedule where
  /-- When the shutdown is requested, if it ever is. -/
  shutdownAt : Option Nat
  /-- Whether the end of the program is seen before a shutdown at the same time. -/
  endingFirst : Bool
  /-- Whether the system refuses to send signals. -/
  guarded : Bool := false
  /-- How long the program may take to end after an interrupt. -/
  limit : Nat := Lifecycle.closingLimit
  deriving DecidableEq, Repr

/-- What has become of a program in the end. -/
inductive Fate where
  | unstarted
  | ended (ending : Ending)
  | killed (time : Nat)
  /-- It was to be killed, and the system refused. -/
  | spared (time : Nat)

structure Run where
  progress : Progress
  /-- When the program was interrupted, if it was. -/
  interruptedAt : Option Nat := none
  fate : Fate
  result : Except Error Unit

def Run.lifecycle (r : Run) : Lifecycle := r.progress.lifecycle

namespace Engine

/-- What ends the wait of an engine. -/
inductive Signal where
  | ending (e : Ending)
  | shutdown (time : Nat)

/-- What comes first. -/
def first (p : Plugin) (s : Schedule) : Option Signal :=
  match p.ending, s.shutdownAt with
  | none, none => none
  | some e, none => some (.ending e)
  | none, some t => some (.shutdown t)
  | some e, some t =>
    if e.time < t || (e.time = t && s.endingFirst) then some (.ending e) else some (.shutdown t)

def kill (s : Schedule) (time : Nat) : Fate := if s.guarded then .spared time else .killed time

/-- The end of a program after an interrupt at a time, or without one if that was refused. -/
def endingAfter (p : Plugin) (s : Schedule) (time : Nat) : Option Ending :=
  match p.ending with
  | some e => if e.time ≤ time || s.guarded then some e else p.reaction time
  | none => if s.guarded then none else p.reaction time

/-- What has become of a program that ended: one whose end the system does not tell is let go of,
which ends it by force. -/
def fateOf (s : Schedule) (e : Ending) : Fate :=
  match e.status with
  | .ok _ => .ended e
  | .error _ => kill s e.time

/-- Stops a program: by an interrupt first, by force if it takes too long. -/
def stop (p : Plugin) (s : Schedule) (time : Nat) : Fate :=
  match endingAfter p s time with
  | some e => if e.time ≤ time + s.limit then fateOf s e else kill s (time + s.limit)
  | none => kill s (time + s.limit)

/-- What the status of a program means for the tunnel. -/
def verdict (status : ExitStatus) : Except Error Unit :=
  if status.isSuccess then .ok () else .error (.engine s!"session plugin exited with {status.text}")

/-- The tunnel runs as soon as its program was started. -/
def begin (spawned : Except Fault Plugin) (p : Progress) (a : Assignment) :
    Progress × Except Error Plugin :=
  match spawned with
  | .error f => (p, .error (.engine s!"cannot start {a.plugin}: {f.message}"))
  | .ok plugin =>
    match (p.reach .spawned).transition .running with
    | (p, .error e) => (p, .error e)
    | (p, .ok _) => (p, .ok plugin)

/-- What has become of the program of a tunnel that does not run. -/
def fateUnused (spawned : Except Fault Plugin) (s : Schedule) : Fate :=
  match spawned with
  | .error _ => .unstarted
  | .ok _ => kill s 0

/-- Closing does not begin if the engine could not wait for its program. -/
def run (spawned : Except Fault Plugin) (s : Schedule) (p : Progress) (a : Assignment) :
    Option Run :=
  match begin spawned p a with
  | (p, .error e) => some { progress := p, fate := fateUnused spawned s, result := .error e }
  | (p, .ok plugin) =>
    match first plugin s with
    | none => none
    | some (.ending e) =>
      match e.status with
      | .ok status =>
        some { progress := p.beginClose, fate := fateOf s e, result := verdict status }
      | .error f =>
        some { progress := p, fate := fateOf s e, result := .error (.io f.message) }
    | some (.shutdown time) =>
      some {
        progress := p.beginClose, interruptedAt := if s.guarded then none else some time
        fate := stop plugin s time, result := .ok () }

end Engine

end PortTunnel.Session
