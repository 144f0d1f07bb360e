import PortTunnel.CommandLine.Run

/-!
# The program

Hands the arguments and the environment to `CommandLine.Host.run` and prints what comes of
it. Nothing is there around the program: no network, no files and no other processes but the
one that has called it.
-/

open PortTunnel

/-- The variables of the environment that mean something to the program. -/
def knownVariables : List String :=
  (CommandLine.Command.entries.flatMap fun e => e.parameters.filterMap (·.envName)) ++
    [Launch.roleVariable, Launch.payloadVariable, Kubeconfig.pathsVariable,
      Launcher.temporaryVariable, "HOME"]

/-- What the environment holds of some variables. -/
def readEnvironment (names : List String) : IO Text.TextTable :=
  names.foldlM (fun t name => do
    match ← IO.getEnv name with
    | some value => pure (t.insert name value)
    | none => pure t) .empty

/-- The process that calls the program. -/
def callerPid : UInt32 := 1

def main (args : List String) : IO UInt32 := do
  let env ← readEnvironment knownVariables
  let account := (← IO.getEnv "USER").getD "nobody"
  let program ← IO.appPath
  let host : CommandLine.Host := {
    system := ⟨{}, { table := [⟨callerPid.toNat, .running false⟩] }⟩
    env := env
    program := program.toString
    self := 2
    caller := callerPid
    account := account }
  let outcome := host.run { network := .absent } .never args
  (← IO.getStdout).write ⟨outcome.output.toArray⟩
  match outcome.complaint with
  | some text => IO.eprintln text
  | none => pure ()
  pure (UInt32.ofNat (outcome.exitCode.getD 0))
