/-!
# Processes

* `ExitStatus`: how a process ended, and how that is worded.
* `Processes`: the processes of a machine. One that has ended stays as a zombie until its
  parent has waited for it; then it is gone.
* `Processes.signal`: sends a signal, which the system may refuse.
-/

namespace PortTunnel.Machine

inductive Signal where
  | interrupt
  | kill
  deriving DecidableEq, Repr

def Signal.number : Signal → Nat
  | .interrupt => 2
  | .kill => 9

inductive ExitStatus where
  | code (value : Nat)
  | signal (number : Nat)
  deriving DecidableEq, Repr

namespace ExitStatus

/-- The names of the signals, from the first on. -/
def signalNames : List String := [
  "SIGHUP", "SIGINT", "SIGQUIT", "SIGILL", "SIGTRAP", "SIGABRT", "SIGBUS", "SIGFPE", "SIGKILL",
  "SIGUSR1", "SIGSEGV", "SIGUSR2", "SIGPIPE", "SIGALRM", "SIGTERM", "SIGSTKFLT", "SIGCHLD",
  "SIGCONT", "SIGSTOP", "SIGTSTP", "SIGTTIN", "SIGTTOU", "SIGURG", "SIGXCPU", "SIGXFSZ",
  "SIGVTALRM", "SIGPROF", "SIGWINCH", "SIGIO", "SIGPWR", "SIGSYS"]

def isSuccess (s : ExitStatus) : Bool := s = .code 0

def text : ExitStatus → String
  | .code value => s!"exit status: {value}"
  | .signal number =>
    match number with
    | 0 => "signal: 0"
    | n + 1 =>
      match signalNames[n]? with
      | some name => s!"signal: {number} ({name})"
      | none => s!"signal: {number}"

end ExitStatus

inductive Condition where
  | running (ignoresInterrupt : Bool)
  | zombie (status : ExitStatus)
  deriving DecidableEq, Repr

structure Process where
  pid : Nat
  condition : Condition
  deriving DecidableEq, Repr

structure Processes where
  table : List Process := []
  /-- Whether the system refuses to send signals. -/
  guarded : Bool := false
  nextPid : Nat := 1000
  deriving DecidableEq, Repr

namespace Processes

def find? (ps : Processes) (pid : Nat) : Option Condition :=
  (ps.table.find? (·.pid = pid)).map (·.condition)

def isRunning (ps : Processes) (pid : Nat) : Bool :=
  match ps.find? pid with
  | some (.running _) => true
  | _ => false

/-- The processes that are still running. -/
def running (ps : Processes) : List Nat := (ps.table.map (·.pid)).filter ps.isRunning

/-- What a signal makes of a process. -/
def receive (s : Signal) : Condition → Condition
  | .running ignoresInterrupt =>
    if s = .interrupt && ignoresInterrupt then .running ignoresInterrupt
    else .zombie (.signal s.number)
  | .zombie status => .zombie status

/-- Sends a signal; says whether the system did so. -/
def signal (ps : Processes) (pid : Nat) (s : Signal) : Processes × Bool :=
  if ps.guarded then (ps, false)
  else
    ({ ps with
        table := ps.table.map fun p =>
          if p.pid = pid then { p with condition := receive s p.condition } else p },
      true)

/-- Starts a process. -/
def start (ps : Processes) (condition : Condition) : Processes × Nat :=
  ({ ps with table := ps.table ++ [⟨ps.nextPid, condition⟩], nextPid := ps.nextPid + 1 }, ps.nextPid)

/-- Waits for a process, which is then gone. -/
def reap (ps : Processes) (pid : Nat) : Processes :=
  { ps with table := ps.table.filter (·.pid ≠ pid) }

end Processes

end PortTunnel.Machine
