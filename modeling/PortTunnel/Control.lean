import PortTunnel.Error
import PortTunnel.Machine.Process

/-!
# Control of processes

* `Control.checkHealthy`, `Control.isAlive`: whether a process still does its work. A zombie
  does not.
* `Control.interrupt`, `Control.terminate`: asks a process to end, or ends it. Each first
  looks whether there is such a process; a zombie counts as one.
-/

namespace PortTunnel.Control

open Machine (Processes Signal)

def checkHealthy (ps : Processes) (pid : Nat) : Except Error Unit :=
  match ps.find? pid with
  | some (.running _) => .ok ()
  | some (.zombie _) => .error (.invalidState s!"process {pid} has exited (zombie)")
  | none => .error (.noProcess pid)

def isAlive (ps : Processes) (pid : Nat) : Bool := (checkHealthy ps pid).toBool

/-- Sends a signal to a process, if there is one. -/
def send (ps : Processes) (pid : Nat) (s : Signal) (refusal : String) :
    Processes × Except Error Unit :=
  match ps.find? pid with
  | none => (ps, .error (.noProcess pid))
  | some _ =>
    match ps.signal pid s with
    | (ps, true) => (ps, .ok ())
    | (ps, false) => (ps, .error (.io refusal))

def interrupt (ps : Processes) (pid : Nat) : Processes × Except Error Unit :=
  send ps pid .interrupt s!"failed to interrupt process {pid}"

def terminate (ps : Processes) (pid : Nat) : Processes × Except Error Unit :=
  send ps pid .kill s!"failed to kill process {pid}"

end PortTunnel.Control
