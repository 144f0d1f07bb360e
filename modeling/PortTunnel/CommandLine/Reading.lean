import PortTunnel.CommandLine.Parameter
import PortTunnel.Text.Table

/-!
# Reading the arguments of a command

Parameters are given as `--name value` or `--name=value`, in any order. There are no
arguments without a name.

* `Argument.ofText`: what an argument looks like on its own.
* `Reading.step`: one argument. A value that is written apart is only looked at once it is
  clear that nothing else is wrong with the argument behind it.
* `read`: the values of a whole command line; what is not given there may come from the
  environment.
-/

namespace PortTunnel.CommandLine

open Text (TextTable)

/-! ## Arguments -/

inductive Argument where
  /-- Behind it nothing is the name of a parameter any more. -/
  | escape
  | long (name : String) (value : Option String)
  /-- A cluster of names of one letter. -/
  | short (first : Char)
  | word (text : String)
  deriving DecidableEq, Repr

/-- Splits at the first sign of equality. -/
def splitEquality (cs : List Char) : String × Option String :=
  let name := String.ofList (cs.takeWhile (· ≠ '='))
  match cs.dropWhile (· ≠ '=') with
  | [] => (name, none)
  | _ :: value => (name, some (String.ofList value))

def Argument.ofText (s : String) : Argument :=
  match s.toList with
  | ['-', '-'] => .escape
  | '-' :: '-' :: cs =>
    let (name, value) := splitEquality cs
    .long name value
  | '-' :: c :: _ => .short c
  | _ => .word s

/-! ## Steps -/

/-- What is still open behind the arguments that were read. -/
inductive Waiting where
  | nothing
  /-- A parameter waits for its value. -/
  | forValue (p : Parameter)
  /-- A value was written behind its parameter, and not yet looked at. -/
  | withValue (p : Parameter) (value : String)
  deriving DecidableEq, Repr

structure Reading where
  given : Given := {}
  waiting : Waiting := .nothing
  escaped : Bool := false
  deriving DecidableEq, Repr

namespace Reading

/-- Deals with what is still open. -/
def settle (r : Reading) : Except Usage Reading :=
  match r.waiting with
  | .nothing => .ok r
  | .forValue _ => .error .emptyValue
  | .withValue p value =>
    (p.put value r.given).map fun given => { r with given := given, waiting := .nothing }

/-- A request for nothing but a text. -/
def ask (r : Reading) (usage : Usage) : Except Usage Reading :=
  match r.settle with
  | .error e => .error e
  | .ok _ => .error usage

/-- The request that a name stands for in every command. -/
def request? (command : String) (name : String) : Option Usage :=
  if name = "help" then some .help
  else if name = "version" then some (.version (some command))
  else none

def requestOfLetter? (command : String) (c : Char) : Option Usage :=
  if c = 'h' then some .help
  else if c = 'V' then some (.version (some command))
  else none

def long (ps : List Parameter) (command : String) (r : Reading) (name : String)
    (value : Option String) : Except Usage Reading :=
  match request? command name, ps.find? (·.name = name), value with
  | some _, _, some _ => .error .surplusValue
  | some usage, _, none => r.ask usage
  | none, none, _ => .error .unknownArgument
  | none, some p, some value =>
    if p.arity = .flag then .error .surplusValue
    else do
      let r ← r.settle
      let given ← p.put value r.given
      .ok { r with given := given }
  | none, some p, none => do
    let r ← r.settle
    if p.arity = .flag then
      let given ← p.raise r.given
      .ok { r with given := given }
    else .ok { r with waiting := .forValue p }

def step (ps : List Parameter) (command : String) (r : Reading) (s : String) :
    Except Usage Reading :=
  if r.escaped then .error .unknownArgument
  else match Argument.ofText s with
    | .escape => .ok { r with escaped := true }
    | .long name value => r.long ps command name value
    | .short c =>
      match requestOfLetter? command c with
      | some usage => r.ask usage
      | none => .error .unknownArgument
    | .word text =>
      match r.waiting with
      | .forValue p => .ok { r with waiting := .withValue p text }
      | _ => .error .unknownArgument

end Reading

/-! ## Whole command lines -/

/-- Takes a parameter that is not given from the environment, if it is there. -/
def Parameter.complete (env : TextTable) (g : Given) (p : Parameter) : Except Usage Given :=
  if g.has p.name then .ok g
  else match p.envName.bind env.get? with
    | some value => p.put value g
    | none => .ok g

/-- Whether a parameter is there as far as it has to be. -/
def Parameter.isMet (g : Given) (p : Parameter) : Bool :=
  (!p.required || g.has p.name) &&
    match p.needs with
    | some other => !g.has p.name || g.has other
    | none => true

def read (ps : List Parameter) (command : String) (env : TextTable) (args : List String) :
    Except Usage Given := do
  let r ← args.foldlM (Reading.step ps command) {}
  let r ← r.settle
  let given ← ps.foldlM (Parameter.complete env) r.given
  if ps.all (Parameter.isMet given) then .ok given else .error .missing

end PortTunnel.CommandLine
