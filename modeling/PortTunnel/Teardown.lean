import PortTunnel.Control
import PortTunnel.Handle
import PortTunnel.Session.Broker

/-!
# Closing tunnels

* `Teardown.Scene`: what is acted on to close a tunnel, with the steps so far on record.
* `Teardown.sessionFailures`: what the end of a session leaves to report.
* `Teardown.run`: interrupts a worker and ends the session behind it. Both steps are always
  taken, and a worker that is gone counts as stopped.
* `close`: closes a tunnel of a machine.
-/

namespace PortTunnel

open Machine (Processes)

namespace Teardown

/-- What an interrupt leaves to report. -/
def interruptFailures (pid : Nat) : Except Error Unit → List String
  | .ok _ => []
  | .error (.noProcess _) => []
  | .error e => [s!"cannot interrupt tunnel process {pid}: {e.message}"]

/-- What the end of a session leaves to report: each failure that the broker lists. -/
def sessionFailures (sessionId : String) : Except Error Unit → List String
  | .ok _ => []
  | .error (.teardown failures) =>
    failures.map fun failure => s!"cannot terminate session {sessionId}: {failure}"
  | .error e => [s!"cannot terminate session {sessionId}: {e.message}"]

def report : List String → Except Error Unit
  | [] => .ok ()
  | failures => .error (.teardown failures)

/-- How a process is told to end. -/
abbrev Interrupter := (ps : Processes) → (pid : Nat) → Processes × Except Error Unit

structure Scene where
  processes : Processes
  /-- The processes that were to be interrupted, once for each attempt. -/
  attempts : List Nat := []
  calls : List Session.Call := []

abbrev Work := StateM Scene

def interrupt (interrupter : Interrupter) (pid : Nat) : Work (Except Error Unit) := do
  let s ← get
  let (ps, outcome) := interrupter s.processes pid
  set { s with processes := ps, attempts := s.attempts ++ [pid] }
  return outcome

def endSession (broker : Session.Broker) (sessionId : String) : Work (Except Error Unit) := do
  let s ← get
  let (outcome, calls) := broker.endSession sessionId s.calls
  set { s with calls := calls }
  return outcome

/-- Both steps, whatever comes of the first. -/
def run (interrupter : Interrupter) (brokerFor : Session.Receipt → Session.Broker) (pid : Nat)
    (session : Option Session.Receipt) : Work (Except Error Unit) := do
  let failures := interruptFailures pid (← interrupt interrupter pid)
  match session with
  | none => return report failures
  | some receipt =>
    let ended ← endSession (brokerFor receipt) receipt.sessionId
    return report (failures ++ sessionFailures receipt.sessionId ended)

end Teardown

/-- What was done to close a tunnel, and what came of it. -/
structure Closed extends Teardown.Scene where
  result : Except Error Unit

def closeBy (interrupter : Teardown.Interrupter) (brokerFor : Session.Receipt → Session.Broker)
    (ps : Processes) (pid : Nat) (session : Option Session.Receipt) : Closed :=
  let (result, scene) := Teardown.run interrupter brokerFor pid session { processes := ps }
  { scene with result := result }

/-- Closes a tunnel. The broker is that of the place where the session lives. -/
def close (brokerFor : Session.Receipt → Session.Broker) (ps : Processes) (pid : Nat)
    (session : Option Session.Receipt) : Closed :=
  closeBy Control.interrupt brokerFor ps pid session

/-- Closes the tunnel of a handle. -/
def Handle.close (brokerFor : Session.Receipt → Session.Broker) (ps : Processes) (h : Handle) :
    Closed :=
  PortTunnel.close brokerFor ps h.pid.toNat h.session

end PortTunnel
