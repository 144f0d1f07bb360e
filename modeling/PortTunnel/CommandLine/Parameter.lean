import PortTunnel.CommandLine.Usage

/-!
# Parameters of commands

* `Parameter`: what may be given to a command under a name.
* `Form.read`: the value of a text.
* `Given`: the values that were given, and what is asked of them.
-/

namespace PortTunnel.CommandLine

/-- What a value may be. -/
inductive Form where
  | text
  /-- A path, which is never empty. -/
  | path
  | number (limit : Nat)
  | truth
  deriving DecidableEq, Repr

inductive Value where
  | text (text : String)
  | number (value : Nat)
  | truth (value : Bool)
  deriving DecidableEq, Repr

/-- How often a parameter may be given, and with what. -/
inductive Arity where
  /-- Once, without a value. -/
  | flag
  | once (form : Form)
  /-- Any number of times, with a text each time. -/
  | many
  deriving DecidableEq, Repr

structure Parameter where
  name : String
  arity : Arity := .once .text
  /-- The variable of the environment that is taken where nothing is given. -/
  envName : Option String := none
  required : Bool := false
  /-- The parameter without which this one means nothing. -/
  needs : Option String := none
  deriving DecidableEq, Repr

/-! ## Values -/

/-- The number of decimal digits behind an optional sign; only zero may be negative. -/
def number? (s : String) : Option Nat :=
  let (negative, digits) := match s.toList with
    | '+' :: cs => (false, cs)
    | '-' :: cs => (true, cs)
    | cs => (false, cs)
  if digits.isEmpty || !digits.all Char.isDigit then none
  else
    let n := digits.foldl (fun n c => n * 10 + (c.toNat - 48)) 0
    if negative && n ≠ 0 then none else some n

def Form.read (form : Form) (s : String) : Except Usage Value :=
  match form with
  | .text => .ok (.text s)
  | .path => if s = "" then .error .emptyValue else .ok (.text s)
  | .number limit =>
    match number? s with
    | some n => if n < limit then .ok (.number n) else .error .unreadableValue
    | none => .error .unreadableValue
  | .truth =>
    if s = "true" then .ok (.truth true)
    else if s = "false" then .ok (.truth false)
    else .error .unlistedValue

/-- The form of values that come from the environment; a flag has one there. -/
def Arity.form : Arity → Form
  | .flag => .truth
  | .once form => form
  | .many => .text

/-! ## What was given -/

/-- Values with the names of their parameters, in the order in which they were given. -/
structure Given where
  values : List (String × Value) := []
  deriving DecidableEq, Repr

namespace Given

def has (g : Given) (name : String) : Bool := g.values.any (·.1 = name)

def add (g : Given) (name : String) (v : Value) : Given := ⟨g.values ++ [(name, v)]⟩

def all (g : Given) (name : String) : List Value :=
  (g.values.filter (·.1 = name)).map (·.2)

def text? (g : Given) (name : String) : Option String :=
  match g.all name with
  | .text s :: _ => some s
  | _ => none

def text (g : Given) (name standard : String) : String := (g.text? name).getD standard

def texts (g : Given) (name : String) : List String :=
  (g.all name).filterMap fun v => match v with
    | .text s => some s
    | _ => none

def number? (g : Given) (name : String) : Option Nat :=
  match g.all name with
  | .number n :: _ => some n
  | _ => none

def isTrue (g : Given) (name : String) : Bool := g.all name = [.truth true]

end Given

/-- Puts a value with its parameter. What may be given once is refused the second time, even
if the value could not be read. -/
def Parameter.put (p : Parameter) (s : String) (g : Given) : Except Usage Given :=
  match p.arity with
  | .many => .ok (g.add p.name (.text s))
  | arity =>
    if g.has p.name then .error .repeated
    else (arity.form.read s).map fun v => g.add p.name v

/-- Gives a flag. -/
def Parameter.raise (p : Parameter) (g : Given) : Except Usage Given :=
  if g.has p.name then .error .repeated else .ok (g.add p.name (.truth true))

end PortTunnel.CommandLine
