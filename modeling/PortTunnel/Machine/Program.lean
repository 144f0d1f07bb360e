import PortTunnel.Machine.Environment
import PortTunnel.Machine.Shell.Run

/-!
# Programs

* `Command`: a program with its arguments and its environment.
* `Starter`: how a machine answers when it is told to start a command, and what becomes of
  the process within the time for which it is watched.
* `scripts`: the machine on which programs are scripts.
-/

namespace PortTunnel.Machine

structure Command where
  program : String
  args : List String
  env : Environment
  deriving DecidableEq, Repr

/-- What has become of a process that was watched for a while. -/
inductive Fate where
  | running (ignoresInterrupt : Bool)
  /-- It has ended, and its starter has been told so. -/
  | exited (status : ExitStatus)
  /-- It has ended, and its starter has not been told yet. -/
  | zombie (status : ExitStatus)
  /-- It is running, but its starter cannot find out: the system refuses to tell, or does not
  list it. -/
  | hidden (refusal : Option Fault)
  deriving DecidableEq, Repr

structure Started where
  output : List UInt8
  fate : Fate
  deriving DecidableEq, Repr

abbrev Starter := (files : Files) → Command → (watchedMs : Nat) → Except Fault Started

/-- Whether a text can be handed to the system at all. -/
def isPassable (s : String) : Bool := !s.toList.contains '\x00'

def Command.isPassable (c : Command) : Bool :=
  Machine.isPassable c.program && c.args.all Machine.isPassable &&
    c.env.entries.all fun e => !e.1.contains 0 && !e.2.contains 0

/-- The programs that every machine has. -/
def ownPrograms : List String := ["cat", "echo", "false", "printf", "sleep", "test", "touch", "true"]

/-- The directories in which a program given by its name alone is looked for. -/
def ownDirectories : List String := ["/bin/", "/usr/bin/"]

/-- One of the machine's own programs, given by its name or its path. -/
def ownProgram? (program : String) : Option String :=
  ownPrograms.find? fun name =>
    program = name || ownDirectories.any fun directory => program = directory ++ name

/-- The script of a program. A name without a slash is that of one of the machine's own. -/
def Files.script (fs : Files) (program : String) : Except Fault String :=
  match ownProgram? program with
  | some name => .ok s!"exec {name} \"$@\""
  | none => do
  if !program.toList.contains '/' then .error .notFound
  else
    match ← fs.open? program with
    | .directory => .error .denied
    | .file _ false => .error .denied
    | .file bytes true =>
      match Text.Utf8.decode bytes with
      | .ok ('#' :: '!' :: rest) => .ok (String.ofList ((rest.dropWhile (· ≠ '\n')).drop 1))
      | _ => .error .execFormat

/-- The script of a command, once the system has accepted it. -/
def Files.accept (fs : Files) (c : Command) : Except Fault String :=
  if c.isPassable then fs.script c.program else .error .nulInArgument

/-- A script at its beginning. -/
def Command.begin (c : Command) (files : Files) (interruptAt : Option Nat) (deadline : Nat) :
    Shell.State :=
  { files := files, program := c.program, args := c.args, vars := c.env.texts, pid := 1000
    deadline := deadline, interruptAt := interruptAt }

def scripts : Starter := fun files c watchedMs => do
  let script ← files.accept c
  match Shell.run script (c.begin files none watchedMs) with
  | (s, .ended status) => .ok ⟨s.output, .exited status⟩
  | (s, .running ignores) => .ok ⟨s.output, .running ignores⟩
  | (s, .next) => .ok ⟨s.output, .running false⟩

end PortTunnel.Machine
