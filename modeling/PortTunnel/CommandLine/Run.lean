import PortTunnel.CommandLine.Command
import PortTunnel.Text.Quoted
import PortTunnel.Worker.Rehearsal

/-!
# Running the program

The program is a front end, which opens and closes tunnels, and, if its environment says so,
a worker.

* `Failure`: what the front end ends with if a command cannot be carried out.
* `Host.carryOut`: carries out a command.
* `Host.run`: the whole program, from its arguments and its environment.
-/

namespace PortTunnel.CommandLine

open Launcher (System)
open Machine (Starter)
open Surroundings (Sight)
open Text (TextTable)

/-! ## Failures -/

def Mistake.message : Mistake → String
  | .variable text => "invalid --exec-env " ++ Text.Quoted.quote text ++ ", expected KEY=VALUE"
  | .noRegion => "--region is required with --session-id"

inductive Failure where
  | mistake (mistake : Mistake)
  /-- The credential of an SSH tunnel cannot be what is given. -/
  | credential (error : Error)
  | opening (kind : Kind) (error : Error)
  | closing (pid : UInt32) (error : Error)
  deriving DecidableEq, Repr

/-- An error with what has caused it. What the operating system says is said again as the
cause. -/
def withCause : Error → String
  | .io text => (Error.io text).message ++ ": " ++ text
  | e => e.message

def Failure.message : Failure → String
  | .mistake m => m.message
  | .credential e => withCause e
  | .opening kind e => s!"failed to open {kind.marker} tunnel: " ++ withCause e
  | .closing pid e => s!"failed to close tunnel {pid.toNat}: " ++ withCause e

/-! ## Arguments as settings -/

/-- The account is the user for whom none is given. -/
def SshArguments.settings (a : SshArguments) (account : String) : Except Failure Settings :=
  match Ssh.Credential.ofParts a.password a.key a.passphrase with
  | .error e => .error (.credential e)
  | .ok credential => .ok (.ssh {
      localHost := a.localHost
      localPort := a.localPort
      bastionHost := a.host
      bastionPort := a.port
      user := a.user.getD account
      credential := credential
      targetHost := a.targetHost
      targetPort := a.targetPort })

def ClusterArguments.settings (a : ClusterArguments) : Except Failure Settings :=
  match a.access.toAccess with
  | .error m => .error (.mistake m)
  | .ok access => .ok (.cluster {
      localHost := a.localHost
      localPort := a.localPort
      nspace := a.nspace
      service := a.service
      targetPort := a.targetPort
      access := access })

/-- The session that is ended along with a tunnel, if one is given. -/
def CloseArguments.receipt (a : CloseArguments) : Except Failure (Option Session.Receipt) :=
  match a.sessionId, a.region with
  | none, _ => .ok none
  | some _, none => .error (.mistake .noRegion)
  | some sessionId, some region => .ok (some ⟨sessionId, region, a.profile, a.roleArn⟩)

/-! ## Commands -/

/-- The machine as the program finds it. -/
structure Host where
  system : System
  env : Machine.Environment
  /-- The file of the program itself. -/
  program : String
  /-- The process of the program itself, and the one that has called it. -/
  self : Nat
  caller : UInt32
  /-- The name of the account that the program runs under. -/
  account : String

/-- What is left of a run. -/
structure Outcome where
  system : System
  output : List UInt8 := []
  /-- What the program says about why it failed. -/
  complaint : Option String := none
  /-- None if the program goes on. -/
  exitCode : Option Nat
  sights : List Sight := []

def programName : String := "tunnelward"

def programVersion : String := "0.3.0"

def targetName : String := "x86_64-linux"

/-- A name of the program with its version; commands have names of their own. -/
def versionLine (command : Option String) : String :=
  let name := match command with
    | none => programName
    | some command => programName ++ "-" ++ command
  name ++ " " ++ programVersion ++ "\n"

def versionText : String := versionLine none ++ "target: " ++ targetName ++ "\n"

namespace Host

/-- Workers run the program that is running. -/
def options (h : Host) (a : LaunchArguments) : Launcher.Options where
  parentPid := a.watchPid.getD h.caller
  logDirectory := a.logDirectory

def launchpad (h : Host) (s : Surroundings) (a : LaunchArguments) : Open.Launchpad where
  start := Worker.itself s h.system.processes
  env := h.env
  executable := .ok h.program
  options := h.options a

def printed (h : Host) (text : String) : Outcome :=
  { system := h.system, output := Text.Utf8.encode text.toList, exitCode := some 0 }

def failed (h : Host) (f : Failure) : Outcome :=
  { system := h.system, complaint := some ("Error: " ++ f.message), exitCode := some 1 }

/-- Opens a tunnel and prints its handle. -/
def openTunnel (h : Host) (s : Surroundings) (a : LaunchArguments) (settings : Settings) : Outcome :=
  let files := h.system.files
  let o := Open.tunnel (h.launchpad s a) (s.services files h.env.texts) s.allocate h.system settings
  let sights := s.seenByOpen files h.env.texts settings o
  match o.result with
  | .ok handle => { { h with system := o.system }.printed handle.text with sights := sights }
  | .error e =>
    { { h with system := o.system }.failed (.opening settings.kind e) with sights := sights }

def closeTunnel (h : Host) (s : Surroundings) (pid : UInt32) (receipt : Option Session.Receipt) :
    Outcome :=
  let c := close s.brokerFor h.system.processes pid.toNat receipt
  let h := { h with system := { h.system with processes := c.processes } }
  let sights := s.seenByClose receipt c
  match c.result with
  | .ok _ => { h.printed "" with sights := sights }
  | .error e => { h.failed (.closing pid e) with sights := sights }

def carryOut (h : Host) (s : Surroundings) : Command → Outcome
  | .ssh a launch =>
    match a.settings h.account with
    | .ok settings => h.openTunnel s launch settings
    | .error f => h.failed f
  | .session settings launch => h.openTunnel s launch (.session settings)
  | .cluster a launch =>
    match a.settings with
    | .ok settings => h.openTunnel s launch settings
    | .error f => h.failed f
  | .close a =>
    match a.receipt with
    | .ok receipt => h.closeTunnel s a.pid receipt
    | .error f => h.failed f
  | .version => h.printed versionText

/-! ## The whole program -/

/-- Of texts for the person who wrote the command line, only versions are worded here. -/
def refuse (h : Host) (u : Usage) : Outcome :=
  let text := match u with
    | .version command => versionLine command
    | _ => ""
  { h.printed text with exitCode := some u.exitCode }

def frontEnd (h : Host) (s : Surroundings) (args : List String) : Outcome :=
  match Command.read h.env.texts args with
  | .ok command => h.carryOut s command
  | .error u => h.refuse u

/-- A worker that may be told to shut down. -/
def work (h : Host) (s : Surroundings) (shutdown : Session.Shutdown) (launch : Launch) : Outcome :=
  let r := Worker.rehearse s h.system.files h.env h.system.processes h.self shutdown launch
  { system := { h.system with files := r.files }
    output := r.output
    complaint := match r.result with
      | some (.error e) => some ("Tunnel worker failed: " ++ withCause e)
      | _ => none
    exitCode := r.result.map Worker.exitCode }

def run (h : Host) (s : Surroundings) (shutdown : Session.Shutdown) (args : List String) : Outcome :=
  match Launch.ofEnvironment h.env args with
  | (_, .ok none) => h.frontEnd s args
  | (env, .ok (some launch)) => { h with env := env }.work s shutdown launch
  | (_, .error e) =>
    { system := h.system, exitCode := some 1
      complaint := some ("Invalid tunnel worker launch: " ++ e.message) }

end Host

end PortTunnel.CommandLine
