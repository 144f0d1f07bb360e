import PortTunnel.Machine.Program
import PortTunnel.Session.Engine

/-!
# Rehearsals of session tunnels

Runs of the session engine on a machine whose programs are scripts.

* `Shutdown`: when the shutdown of a rehearsal comes.
* `encounter`: what the engine meets with on such a machine.
* `rehearse`: the run, with the files that it leaves behind.
-/

namespace PortTunnel.Session

open Machine (Command Environment Fault Files Place)
open Machine.Shell (Flow State)
open Text.Utf8 (bytes)

/-- When the shutdown of a rehearsal comes. -/
inductive Shutdown where
  | never
  /-- Before the program is started. -/
  | before
  /-- As soon as the program has made a certain file. -/
  | once (place : Place)
  deriving DecidableEq, Repr

/-- The longest time for which a program is followed, in milliseconds. -/
def horizon : Nat := 60000

/-- The command of the program that carries a session. -/
def command (env : Environment) (a : Assignment) : Command :=
  ⟨a.plugin, pluginArguments a, env.set (bytes responseVariable) (bytes (pluginResponse a))⟩

/-- A script, run up to a time, with an interrupt at a time. -/
def follow (files : Files) (c : Command) (script : String) (interruptAt : Option Nat) (deadline : Nat) :
    State × Flow :=
  Machine.Shell.run script (c.begin files interruptAt deadline)

def endingOf : State × Flow → Option Ending
  | (s, .ended status) => some ⟨s.clock, .ok status⟩
  | _ => none

/-- A script as a program that carries a session. -/
def Plugin.ofScript (files : Files) (c : Command) (script : String) : Plugin where
  ending := endingOf (follow files c script none horizon)
  reaction time := endingOf (follow files c script (some time) horizon)

/-- The time of a shutdown. A file is noticed in the moment after the one in which it is
made. -/
def Shutdown.time? (files : Files) (c : Command) (script : String) : Shutdown → Option Nat
  | .never => none
  | .before => some 0
  | .once place =>
    ((follow files c script none horizon).1.made.find? (·.1 = place)).map (·.2 + 1)

structure Rehearsal where
  run : Run
  files : Files
  /-- What the program has written to where its starter writes. -/
  output : List UInt8

/-- How far a program has come when a run is over; it has come nowhere if it was ended by
force at once. -/
def Fate.reached : Fate → Option Nat
  | .unstarted => none
  | .ended e => some e.time
  | .killed 0 => none
  | .killed time => some time
  | .spared 0 => none
  | .spared time => some time

/-- What a program leaves behind, if it was started. -/
def leave (files : Files) (c : Command) (r : Run) : Rehearsal :=
  match files.accept c, r.fate.reached with
  | .ok script, some time =>
    let (s, _) := follow files c script r.interruptedAt time
    ⟨r, s.files, s.output⟩
  | _, _ => ⟨r, files, []⟩

/-- What the engine meets with on such a machine. -/
def encounter (files : Files) (env : Environment) (shutdown : Shutdown) (guarded : Bool)
    (limit : Nat) (a : Assignment) : Except Fault Plugin × Schedule :=
  let c := command env a
  match files.accept c with
  | .error f => (.error f, ⟨none, true, guarded, limit⟩)
  | .ok script =>
    (.ok (Plugin.ofScript files c script),
      ⟨shutdown.time? files c script, decide (shutdown ≠ .before), guarded, limit⟩)

def rehearse (files : Files) (env : Environment) (shutdown : Shutdown) (guarded : Bool) (limit : Nat)
    (l : Lifecycle) (a : Assignment) : Option Rehearsal :=
  let (spawned, schedule) := encounter files env shutdown guarded limit a
  (Engine.run spawned schedule { lifecycle := l } a).map (leave files (command env a))

end PortTunnel.Session
