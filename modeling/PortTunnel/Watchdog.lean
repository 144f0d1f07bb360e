import PortTunnel.Control

/-!
# Watchdogs

A watchdog polls a process and, once that is gone, tells a target to end: by interrupts
first, by force after a number of them.

* `Watchdog.spawn`: a watchdog is only set on a process that is alive.
* `Watchdog.act`: what a poll does, after how many that found the process gone.
* `Watchdog.watch`: the actions of a sequence of polls.
* `Watchdog.patrol`: polls of a machine on which other things happen as well, on record.
* `Watchdog.run`: polls of a machine on which nothing else happens.
-/

namespace PortTunnel

open Machine (Processes Signal)

/-- How many interrupts are sent before the target is ended by force, unless told otherwise. -/
def Watchdog.defaultEscalation : UInt32 := 3

structure Watchdog where
  parent : Nat
  target : Nat
  escalateAfter : UInt32 := Watchdog.defaultEscalation
  deriving DecidableEq, Repr

namespace Watchdog

/-- Who is watched, and who is told to end. -/
structure Binding where
  parent : Nat
  target : Nat
  deriving DecidableEq, Repr

def spawn (w : Watchdog) (ps : Processes) : Except Error Binding :=
  match Control.checkHealthy ps w.parent with
  | .ok _ => .ok ⟨w.parent, w.target⟩
  | .error e => .error (.watchdog s!"cannot watch process {w.parent}: {e.message}")

/-- One more miss; the counter stays at its largest value once it is there. -/
def count (misses : UInt32) : UInt32 := if misses + 1 = 0 then misses else misses + 1

/-- The misses after a poll, and the signal that it sends. A poll that finds the parent
alive does nothing at all. -/
def act (w : Watchdog) (misses : UInt32) (alive : Bool) : UInt32 × Option Signal :=
  if alive then (misses, none)
  else
    let misses := count misses
    (misses, some (if w.escalateAfter < misses then .kill else .interrupt))

/-- The signals of a sequence of polls, by whether each finds the parent alive. -/
def watch (w : Watchdog) (misses : UInt32) : List Bool → List (Option Signal)
  | [] => []
  | alive :: rest =>
    let (misses, signal) := w.act misses alive
    signal :: w.watch misses rest

/-- A signal that was sent to a process, and what came of it. -/
structure Sending where
  pid : Nat
  signal : Signal
  answer : Except Error Unit

/-- A poll on record: whether it found the parent alive, and the signal that it sent. -/
structure Poll where
  alive : Bool
  sent : Option Sending

/-- Polls on record, and the machine after the last of them. -/
structure Patrol where
  polls : List Poll
  left : Processes

def send (ps : Processes) (pid : Nat) : Signal → Processes × Except Error Unit
  | .interrupt => Control.interrupt ps pid
  | .kill => Control.terminate ps pid

/-- One poll of a machine: the misses after it, what is on record of it, and what it leaves. What
comes of its signal is of no concern to it. -/
def poll (w : Watchdog) (misses : UInt32) (ps : Processes) : UInt32 × Poll × Processes :=
  let alive := Control.isAlive ps w.parent
  match w.act misses alive with
  | (misses, none) => (misses, ⟨alive, none⟩, ps)
  | (misses, some signal) =>
    let (left, answer) := send ps w.target signal
    (misses, ⟨alive, some ⟨w.target, signal, answer⟩⟩, left)

/-- Polls one after another. Each meets what the one before has left, changed by whatever has
happened since. -/
def patrol (w : Watchdog) (misses : UInt32) (ps : Processes) :
    (since : List (Processes → Processes)) → Patrol
  | [] => ⟨[], ps⟩
  | change :: rest =>
    let (misses, poll, left) := w.poll misses (change ps)
    let patrol := w.patrol misses left rest
    ⟨poll :: patrol.polls, patrol.left⟩

/-- Polls a machine a number of times, during which only the watchdog acts. -/
def run (w : Watchdog) (misses : UInt32) (ps : Processes) (polls : Nat) : Processes :=
  (w.patrol misses ps (List.replicate polls id)).left

end Watchdog

end PortTunnel
