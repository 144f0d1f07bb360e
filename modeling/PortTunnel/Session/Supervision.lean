import PortTunnel.Session.Engine

/-!
# The program of a session under supervision

The engine of a session tunnel and its program, event by event, on a system that kills programs when
told to and says how they have ended. The program ends whenever it likes, the shutdown is requested
at any time, and the engine sees either of them at any time after.

* `Life`, `Watch`: how far the program and the engine have come.
* `Supervision.step`, `Supervision.run`: both under events. An event that cannot happen changes
  nothing.
* `Supervision.outcome?`: the run of the engine, once it has returned.
-/

namespace PortTunnel.Session

open Machine (ExitStatus)

/-- What has become of the program. -/
inductive Life where
  | running
  | ended (time : Nat) (status : ExitStatus)
  | killed (time : Nat)
  deriving DecidableEq, Repr

def Life.fate? : Life → Option Fate
  | .running => none
  | .ended time status => some (.ended ⟨time, .ok status⟩)
  | .killed time => some (.killed time)

/-- What the engine is at. -/
inductive Watch where
  /-- It waits for the end of the program or for a shutdown. -/
  | waiting
  /-- It has interrupted the program at a time, and waits for its end. -/
  | stopping (since : Nat)
  | returned (result : Except Error Unit)

structure Supervision where
  progress : Progress
  now : Nat := 0
  /-- Whether the shutdown is requested. This holds on. -/
  asked : Bool := false
  life : Life := .running
  /-- What the engine has sent to the program, and when. -/
  signals : List (Nat × Machine.Signal) := []
  watch : Watch := .waiting

namespace Supervision

inductive Event where
  | passed (duration : Nat)
  /-- The program ends, of itself or on an interrupt. -/
  | ended (status : ExitStatus)
  | asked
  /-- The engine sees that the program has ended while it waits. -/
  | exitSeen
  /-- The engine sees that it is to shut down, and sends an interrupt if the system lets it. -/
  | shutdownSeen (sent : Bool)
  /-- The engine sees that the program it stops has ended. -/
  | reaped
  /-- The time for the program to end is over. An end that has come by then is seen instead. -/
  | expired
  deriving DecidableEq, Repr

/-- A program that was just started for a tunnel. -/
def begun (p : Progress) : Supervision where
  progress := ((p.reach .spawned).transition .running).1

/-- What is sent of an interrupt. -/
def interrupts (sent : Bool) (time : Nat) : List (Nat × Machine.Signal) :=
  if sent then [(time, .interrupt)] else []

def interrupt (w : Supervision) (sent : Bool) : Supervision :=
  { w with signals := w.signals ++ interrupts sent w.now }

def kill (w : Supervision) : Supervision :=
  { w with life := .killed w.now, signals := w.signals ++ [(w.now, .kill)] }

/-- Begins to close, and goes on to what comes then. -/
def close (w : Supervision) (watch : Watch) : Supervision :=
  { w with progress := w.progress.beginClose, watch := watch }

def step (limit : Nat) (w : Supervision) : Event → Supervision
  | .passed duration => { w with now := w.now + duration }
  | .ended status => if w.life = .running then { w with life := .ended w.now status } else w
  | .asked => { w with asked := true }
  | .exitSeen =>
    match w.watch, w.life with
    | .waiting, .ended _ status => w.close (.returned (Engine.verdict status))
    | _, _ => w
  | .shutdownSeen sent =>
    match w.watch, w.asked with
    | .waiting, true => (w.interrupt sent).close (.stopping w.now)
    | _, _ => w
  | .reaped =>
    match w.watch, w.life with
    | .stopping _, .ended _ _ => { w with watch := .returned (.ok ()) }
    | _, _ => w
  | .expired =>
    match w.watch, w.life with
    | .stopping since, .running =>
      if since + limit ≤ w.now then { w.kill with watch := .returned (.ok ()) } else w
    | _, _ => w

def run (limit : Nat) (w : Supervision) (events : List Event) : Supervision :=
  events.foldl (step limit) w

/-- When the program was interrupted, if it was. -/
def interruptedAt (w : Supervision) : Option Nat :=
  (w.signals.find? (·.2 = .interrupt)).map (·.1)

def outcome? (w : Supervision) : Option Run :=
  match w.watch, w.life.fate? with
  | .returned result, some fate =>
    some { progress := w.progress, interruptedAt := w.interruptedAt, fate := fate, result := result }
  | _, _ => none

end Supervision

end PortTunnel.Session
