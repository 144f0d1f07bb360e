import PortTunnel.Control
import PortTunnel.Launch
import PortTunnel.Machine.Program

/-!
# Starting workers

A worker is started with its output appended to a log of its own, and then watched for a
grace time. It counts as up if it is still running at the end.

* `Launcher.fork`: starts a worker. Whatever fails, no process is left behind.
* `Launcher.Means`: what the system gives to a process that starts workers.
* `Launcher.logPath`: where the log of a worker is.
-/

namespace PortTunnel.Launcher

open Machine (Environment Files Processes Command Starter Started Fate)
open Text.Utf8 (bytes decodeLossy)

/-- What a machine holds. -/
structure System where
  files : Files
  processes : Processes := {}
  deriving DecidableEq, Repr

structure Options where
  /-- The program that is started; the one that is running if none is given. -/
  program : Option String := none
  /-- The process that the worker belongs to. -/
  parentPid : UInt32
  /-- The grace time; that of the kind of tunnel if none is given. -/
  graceMs : Option Nat := none
  /-- The directory of logs; that of files which do not last if none is given. -/
  logDirectory : Option String := none
  deriving DecidableEq, Repr

/-- An output of a worker. Both go to the log. -/
inductive Output where
  | standard
  | errors
  deriving DecidableEq, Repr

/-- What the system gives to a process that starts workers. A refusal is in its own words. -/
structure Means where
  start : Starter
  env : Environment
  /-- The file of the program that is running. -/
  executable : Except String String
  /-- Whether there is another descriptor of the log, for an output of the worker. -/
  duplicate : Output → Except String Unit := fun _ => .ok ()

/-! ## Logs -/

/-- The variable that names the directory of files that do not last. -/
def temporaryVariable : String := "TMPDIR"

/-- The directory of files that do not last. A path is a text here, so bytes that are none are taken
for one as far as they go. -/
def temporaryDirectory (env : Environment) : String :=
  match env.get? (bytes temporaryVariable) with
  | some value => (Text.Utf8.text? value).getD (.ofList (decodeLossy value))
  | none => "/tmp"

def Options.directory (o : Options) (env : Environment) : String :=
  o.logDirectory.getD (temporaryDirectory env)

def logPath (directory : String) (a : Assignment) : String := Machine.Path.join directory a.logName

/-- Adds to a log. A log that cannot be written to any more is left as it is. -/
def log (files : Files) (path : String) (bytes : List UInt8) : Files :=
  match files.append path bytes with
  | .ok files => files
  | .error _ => files

/-- A directory and an empty log in it, or the log that is there. -/
def openLog (files : Files) (directory : String) (a : Assignment) : Files × Except Error Unit :=
  match files.makeDirectories directory with
  | .error f => (files, .error (.io f.message))
  | .ok files =>
    match files.append (logPath directory a) [] with
    | .error f => (files, .error (.io f.message))
    | .ok files => (files, .ok ())

/-! ## Workers -/

/-- A worker that is up. -/
structure Worker where
  pid : Nat
  logPath : String
  localHost : String
  localPort : UInt16
  deriving DecidableEq, Repr

/-- The command of a worker, started from an environment. -/
def command (program : String) (a : Assignment) (o : Options) (env : Environment) : Command :=
  ⟨program, Launch.arguments o.parentPid, Launch.environment a env⟩

/-- What comes of starting a program as a worker and watching it for its grace time. -/
def attempt (m : Means) (files : Files) (program : String) (a : Assignment) (o : Options) :
    Except Machine.Fault Started :=
  m.start files (command program a o m.env) (o.graceMs.getD a.graceMs)

/-- The program of a worker. -/
def chosenProgram (m : Means) (o : Options) : Except Error String :=
  match o.program with
  | some program => .ok program
  | none => m.executable.mapError .io

/-- What has to be had besides a log: the program of the worker, and the log for both outputs. -/
def equip (m : Means) (o : Options) : Except Error String := do
  let program ← chosenProgram m o
  (m.duplicate .standard).mapError .io
  (m.duplicate .errors).mapError .io
  .ok program

/-- The state of a process with a fate. -/
def condition : Fate → Machine.Condition
  | .running ignoresInterrupt => .running ignoresInterrupt
  | .exited status => .zombie status
  | .zombie status => .zombie status
  | .hidden _ => .running false

def unhealthy (pid : Nat) (e : Error) : String := s!"worker {pid} is not healthy: {e.message}"

/-- Why a worker cannot be used after its grace time, if it cannot. -/
def failure? (ps : Processes) (pid : Nat) : Fate → Option String
  | .exited status => some s!"worker {pid} exited with {status.text}"
  | .hidden (some refusal) => some s!"cannot query worker {pid}: {refusal.message}"
  | .hidden none => some (unhealthy pid (.noProcess pid))
  | _ =>
    match Control.checkHealthy ps pid with
    | .ok _ => none
    | .error e => some (unhealthy pid e)

/-- Ends a process and waits for it; one that may not be ended is waited for until it ends by
itself. -/
def abandon (ps : Processes) (pid : Nat) : Processes := (ps.signal pid .kill).1.reap pid

/-- Decides about a process that was watched for its grace time. -/
def settle (sys : System) (a : Assignment) (path : String) (started : Started) :
    System × Except Error Worker :=
  let files := log sys.files path started.output
  let (ps, pid) := sys.processes.start (condition started.fate)
  match failure? ps pid started.fate with
  | some reason => (⟨files, abandon ps pid⟩, .error (.start reason path))
  | none => (⟨files, ps⟩, .ok ⟨pid, path, a.localHost, a.localPort⟩)

def fork (m : Means) (sys : System) (a : Assignment) (o : Options) : System × Except Error Worker :=
  match a.requirePort with
  | .error e => (sys, .error e)
  | .ok _ =>
    let directory := o.directory m.env
    match openLog sys.files directory a with
    | (files, .error e) => ({ sys with files := files }, .error e)
    | (files, .ok _) =>
      match equip m o with
      | .error e => ({ sys with files := files }, .error e)
      | .ok program =>
        let path := logPath directory a
        match attempt m files program a o with
        | .error f =>
          let reason := s!"cannot spawn {program}: {f.message}"
          ({ sys with files := log files path (Text.Utf8.encode (reason ++ "\n").toList) },
            .error (.start reason path))
        | .ok started => settle { sys with files := files } a path started

end PortTunnel.Launcher
