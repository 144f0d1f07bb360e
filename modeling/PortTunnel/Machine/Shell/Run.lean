import PortTunnel.Machine.Files
import PortTunnel.Machine.Process
import PortTunnel.Machine.Shell.Reader
import PortTunnel.Text.Table
import PortTunnel.Text.Utf8

/-!
# Running scripts

A script runs on a clock of its own, in milliseconds, which only its pauses move. It is
looked at until a deadline, and may receive one interrupt on the way.

* `State`: files, clock, parameters and traps of a running script.
* `Flow`: whether it goes on, has ended, or still runs at the deadline.
* `run`: a script from its beginning.
-/

namespace PortTunnel.Machine.Shell

open Text (TextTable)

/-- Where output goes. -/
inductive Output where
  /-- To whoever started the script. -/
  | outside
  | file (place : Place)
  deriving DecidableEq, Repr

structure Streams where
  out : Output := .outside
  err : Output := .outside
  deriving DecidableEq, Repr

structure State where
  files : Files
  /-- The path that the script was started by. -/
  program : String
  args : List String
  vars : TextTable
  pid : Nat
  deadline : Nat
  /-- When an interrupt arrives that has not been dealt with. -/
  interruptAt : Option Nat
  clock : Nat := 0
  status : Nat := 0
  /-- What is done on a signal, by its number; nothing for an empty text. -/
  traps : List (Nat × String) := []
  /-- The output that nobody redirected. -/
  output : List UInt8 := []
  /-- When files were made that were not there. -/
  made : List (Place × Nat) := []

inductive Flow where
  | next
  | ended (status : ExitStatus)
  | running (ignoresInterrupt : Bool)
  deriving DecidableEq, Repr

/-! ## Words -/

/-- The value of a parameter; none if it is not set. -/
def State.param? (s : State) (name : String) : Option String :=
  if name = "#" then some (toString s.args.length)
  else if name = "$" then some (toString s.pid)
  else if name = "?" then some (toString s.status)
  else if name = "0" then some s.program
  else if name = "@" then if s.args.isEmpty then none else some (" ".intercalate s.args)
  else match name.toList with
    | [d] => if d.isDigit then s.args[d.toNat - 49]? else s.vars.get? name
    | _ => s.vars.get? name

/-- The pieces of a text between blanks. -/
def fieldsOf (text : String) : List String :=
  ((text.toList.splitBy fun a b => a.isWhitespace = b.isWhitespace).filter
    fun piece => !piece.any Char.isWhitespace).map String.ofList

/-- The fields of a piece: the first of them belongs to the field before it. -/
def State.expandPart (s : State) : Part → List String
  | .text value _ => [value]
  | .param name fallback quoted =>
    if name = "@" && quoted then s.args
    else
      let value := (s.param? name <|> fallback).getD ""
      if quoted then [value] else fieldsOf value

/-- Fields that are finished, and the one at which more pieces may be added. -/
def joinFields (acc : List String × Option String) : List String → List String × Option String
  | [] => acc
  | first :: rest =>
    rest.foldl
      (fun acc field => match acc.2 with
        | some current => (acc.1 ++ [current], some field)
        | none => (acc.1, some field))
      (acc.1, some (acc.2.getD "" ++ first))

def State.expand (s : State) (w : Word) : List String :=
  let (done, last) := w.foldl (fun acc part => joinFields acc (s.expandPart part)) ([], none)
  match last with
  | some field => done ++ [field]
  | none => done

/-- A word that is one field. -/
def State.expandOne (s : State) (w : Word) : String := " ".intercalate (s.expand w)

/-! ## Output -/

def State.emitBytes (s : State) (o : Output) (bytes : List UInt8) : State :=
  match o with
  | .outside => { s with output := s.output ++ bytes }
  | .file place =>
    match s.files.find? place with
    | some (.file old executable) =>
      { s with files := s.files.set place (.file (old ++ bytes) executable) }
    | _ => s

def State.emit (s : State) (o : Output) (text : String) : State :=
  s.emitBytes o (Text.Utf8.encode text.toList)

/-- Opens a file for output. -/
def State.openFile (s : State) (path : String) (atEnd : Bool) : Option (State × Place) :=
  match s.files.target path with
  | .error _ => none
  | .ok (place, old, executable) =>
    let made := if (s.files.find? place).isSome then s.made else s.made ++ [(place, s.clock)]
    some ({ s with
      files := s.files.set place (.file (if atEnd then old else []) executable), made := made }, place)

def Streams.get (streams : Streams) (fd : Nat) : Output := if fd = 2 then streams.err else streams.out

def Streams.put (streams : Streams) (fd : Nat) (o : Output) : Streams :=
  if fd = 2 then { streams with err := o } else { streams with out := o }

/-- The streams behind redirections; none if a file cannot be opened. -/
def redirect (s : State) (streams : Streams) : List Redirect → Option (State × Streams)
  | [] => some (s, streams)
  | .duplicate fd source :: rest => redirect s (streams.put fd (streams.get source)) rest
  | .toFile fd atEnd target :: rest =>
    match s.openFile (s.expandOne target) atEnd with
    | some (s, place) => redirect s (streams.put fd (.file place)) rest
    | none => none

/-! ## Commands that the shell knows -/

/-- A number of seconds, in milliseconds. -/
def milliseconds (text : String) : Nat :=
  match text.splitOn "." with
  | [whole] => whole.toNat?.getD 0 * 1000
  | [whole, fraction] =>
    whole.toNat?.getD 0 * 1000 +
      (String.ofList ((fraction.toList ++ ['0', '0', '0']).take 3)).toNat?.getD 0
  | _ => 0

/-- The number of a signal, given by number or by name. -/
def signalNumber (text : String) : Option Nat :=
  match text.toNat? with
  | some n => some n
  | none => (ExitStatus.signalNames.findIdx? fun name => name = text || name = "SIG" ++ text).map (· + 1)

/-- The number of a signal as an option of a command. -/
def signalOption? (text : String) : Option Nat :=
  match text.toList with
  | '-' :: name => signalNumber (String.ofList name)
  | _ => none

/-- Whether a file is as a condition on files says. -/
def State.testFile (s : State) (operator path : String) : Bool :=
  match operator, s.files.open? path with
  | "-d", .ok .directory => true
  | "-f", .ok (.file _ _) => true
  | "-s", .ok (.file bytes _) => !bytes.isEmpty
  | "-x", .ok (.file _ executable) => executable
  | "-x", .ok .directory => true
  | operator, .ok _ => operator = "-e" || operator = "-r" || operator = "-w"
  | _, .error _ => false

/-- A comparison of two numbers; none for an operator that compares no numbers. -/
def compareNumbers? (operator : String) (a b : Int) : Option Bool :=
  match operator with
  | "-eq" => some (a = b)
  | "-ne" => some (a ≠ b)
  | "-lt" => some (a < b)
  | "-le" => some (a ≤ b)
  | "-gt" => some (a > b)
  | "-ge" => some (a ≥ b)
  | _ => none

/-- Whether a condition holds; none if it is not one. -/
def State.test? (s : State) : List String → Option Bool
  | [] => some false
  | [text] => some (text ≠ "")
  | [operator, operand] =>
    if operator = "!" then some (operand = "")
    else if operator = "-n" then some (operand ≠ "")
    else if operator = "-z" then some (operand = "")
    else if operator = "-t" then some false
    else if ["-e", "-f", "-d", "-s", "-r", "-w", "-x"].contains operator then
      some (s.testFile operator operand)
    else none
  | [a, operator, b] =>
    if operator = "=" then some (a = b)
    else if operator = "!=" then some (a ≠ b)
    else match a.toInt?, b.toInt? with
      | some m, some n => compareNumbers? operator m n
      | _, _ =>
        if a = "!" then (s.test? [operator, b]).map not else none
  | "!" :: rest => (s.test? rest).map not
  | _ => none

/-- The status of a condition. -/
def statusOf : Option Bool → Nat
  | some true => 0
  | some false => 1
  | none => 2

/-- One pass of a format over arguments: the text and the arguments left. -/
def formatOnce : List Char → List String → List Char × List String
  | [], args => ([], args)
  | '%' :: 's' :: rest, args =>
    let (text, left) := formatOnce rest args.tail
    ((args.head?.getD "").toList ++ text, left)
  | '%' :: 'd' :: rest, args =>
    let (text, left) := formatOnce rest args.tail
    ((args.head?.getD "0").toList ++ text, left)
  | '%' :: '%' :: rest, args =>
    let (text, left) := formatOnce rest args
    ('%' :: text, left)
  | '\\' :: 'n' :: rest, args =>
    let (text, left) := formatOnce rest args
    ('\n' :: text, left)
  | '\\' :: 't' :: rest, args =>
    let (text, left) := formatOnce rest args
    ('\t' :: text, left)
  | '\\' :: '\\' :: rest, args =>
    let (text, left) := formatOnce rest args
    ('\\' :: text, left)
  | c :: rest, args =>
    let (text, left) := formatOnce rest args
    (c :: text, left)

/-- A format is used again as long as it consumes arguments and some are left. -/
def formatAll (format : List Char) : (fuel : Nat) → List String → List Char
  | 0, _ => []
  | fuel + 1, args =>
    let (text, left) := formatOnce format args
    if left.isEmpty || left.length = args.length then text else text ++ formatAll format fuel left

def State.trap? (s : State) (number : Nat) : Option String :=
  (s.traps.find? (·.1 = number)).map (·.2)

def State.setTrap (s : State) (action : String) (signals : List String) : State :=
  let numbers := signals.filterMap signalNumber
  let kept := s.traps.filter fun t => !numbers.contains t.1
  if action = "-" then { s with traps := kept }
  else { s with traps := kept ++ numbers.map fun n => (n, action) }

def interruptNumber : Nat := Signal.interrupt.number

/-- Whether an interrupt has no effect on the script. -/
def State.ignoresInterrupt (s : State) : Bool := s.trap? interruptNumber = some ""

/-- Becomes a pause of a number of milliseconds. Traps are gone, but what was ignored still
is. -/
def State.becomePause (s : State) (length : Nat) : State × Flow :=
  let stop := s.clock + length
  match s.ignoresInterrupt, s.interruptAt with
  | false, some t =>
    if t < stop && t ≤ s.deadline then
      ({ s with clock := max t s.clock }, .ended (.signal interruptNumber))
    else if s.deadline < stop then ({ s with clock := s.deadline }, .running false)
    else ({ s with clock := stop }, .ended (.code 0))
  | ignores, _ =>
    if s.deadline < stop then ({ s with clock := s.deadline }, .running ignores)
    else ({ s with clock := stop }, .ended (.code 0))

/-- What a file holds goes to the output; without files nothing is there to read. -/
def State.show (s : State) (streams : Streams) : List String → State
  | [] => { s with status := 0 }
  | path :: rest =>
    match s.files.read path with
    | .ok bytes =>
      (s.emitBytes streams.out bytes).show streams rest
    | .error f =>
      let reason := (f.message.splitOn " (").headD ""
      { (s.emit streams.err s!"cat: {path}: {reason}\n").show streams rest with status := 1 }

/-- Waits for a pause to end. An interrupt ends a script without a trap at once. -/
def State.pause (s : State) (length : Nat) : State × Flow :=
  let stop := s.clock + length
  match s.trap? interruptNumber, s.interruptAt with
  | none, some t =>
    if t < stop && t ≤ s.deadline then
      ({ s with clock := max t s.clock }, .ended (.signal interruptNumber))
    else if s.deadline < stop then ({ s with clock := s.deadline }, .running false)
    else ({ s with clock := stop, status := 0 }, .next)
  | trap, _ =>
    if s.deadline < stop then ({ s with clock := s.deadline }, .running (trap = some ""))
    else ({ s with clock := stop, status := 0 }, .next)

/-! ## Running -/

/-- An assignment, if a field is one. -/
def assignment? (field : String) : Option (String × String) :=
  let name := field.toList.takeWhile isNameChar
  match field.toList.drop name.length with
  | '=' :: value => if name.isEmpty then none else some (String.ofList name, String.ofList value)
  | _ => none

/-- Makes the assignment that a field is, if it is one. -/
def State.assign (s : State) (field : String) : State :=
  match assignment? field with
  | some (name, value) => { s with vars := s.vars.insert name value }
  | none => s

mutual

/-- Deals with an interrupt that has arrived. -/
def poll : (fuel : Nat) → Streams → State → State × Flow
  | 0, _, s => (s, .running s.ignoresInterrupt)
  | fuel + 1, streams, s =>
    match s.interruptAt with
    | none => (s, .next)
    | some t =>
      if s.clock < t then (s, .next)
      else match s.trap? interruptNumber with
        | none => (s, .ended (.signal interruptNumber))
        | some action => runText fuel streams action { s with interruptAt := none }

/-- Runs the text of a trap. -/
def runText : (fuel : Nat) → Streams → String → State → State × Flow
  | 0, _, _, s => (s, .running s.ignoresInterrupt)
  | fuel + 1, streams, text, s => runList fuel streams ((parse text).getD []) s

def runList : (fuel : Nat) → Streams → List Command → State → State × Flow
  | 0, _, _, s => (s, .running s.ignoresInterrupt)
  | _ + 1, _, [], s => (s, .next)
  | fuel + 1, streams, c :: cs, s =>
    match poll fuel streams s with
    | (s, .next) =>
      match runCommand fuel streams c s with
      | (s, .next) => runList fuel streams cs s
      | ended => ended
    | ended => ended

def runCommand : (fuel : Nat) → Streams → Command → State → State × Flow
  | 0, _, _, s => (s, .running s.ignoresInterrupt)
  | fuel + 1, streams, .simple words redirects, s =>
    match redirect s streams redirects with
    | none => ({ s with status := 2 }, .next)
    | some (s, streams) => runFields fuel streams (words.flatMap s.expand) s
  | fuel + 1, streams, .each name words body redirects, s =>
    match redirect s streams redirects with
    | none => ({ s with status := 2 }, .next)
    | some (s, streams) => runEach fuel streams name body (words.flatMap s.expand) s
  | fuel + 1, streams, .repeated condition body redirects, s =>
    match redirect s streams redirects with
    | none => ({ s with status := 2 }, .next)
    | some (s, streams) => runRepeated fuel streams condition body s
  | fuel + 1, streams, .choice condition yes no, s =>
    match runList fuel streams condition s with
    | (s, .next) => runList fuel streams (if s.status = 0 then yes else no) s
    | ended => ended
  | fuel + 1, streams, .both first second, s =>
    match runCommand fuel streams first s with
    | (s, .next) => if s.status = 0 then runCommand fuel streams second s else (s, .next)
    | ended => ended
  | fuel + 1, streams, .either first second, s =>
    match runCommand fuel streams first s with
    | (s, .next) => if s.status = 0 then (s, .next) else runCommand fuel streams second s
    | ended => ended

def runEach : (fuel : Nat) → Streams → String → List Command → List String → State → State × Flow
  | 0, _, _, _, _, s => (s, .running s.ignoresInterrupt)
  | _ + 1, _, _, _, [], s => (s, .next)
  | fuel + 1, streams, name, body, value :: values, s =>
    match runList fuel streams body { s with vars := s.vars.insert name value } with
    | (s, .next) => runEach fuel streams name body values s
    | ended => ended

def runRepeated : (fuel : Nat) → Streams → List Command → List Command → State → State × Flow
  | 0, _, _, _, s => (s, .running s.ignoresInterrupt)
  | fuel + 1, streams, condition, body, s =>
    match runList fuel streams condition s with
    | (s, .next) =>
      if s.status ≠ 0 then ({ s with status := 0 }, .next)
      else match runList fuel streams body s with
        | (s, .next) => runRepeated fuel streams condition body s
        | ended => ended
    | ended => ended

def runFields : (fuel : Nat) → Streams → List String → State → State × Flow
  | 0, _, _, s => (s, .running s.ignoresInterrupt)
  | _ + 1, _, [], s => ({ s with status := 0 }, .next)
  | fuel + 1, streams, name :: args, s =>
    match name, args with
    | ":", _ => ({ s with status := 0 }, .next)
    | "true", _ => ({ s with status := 0 }, .next)
    | "false", _ => ({ s with status := 1 }, .next)
    | "wait", _ => ({ s with status := 0 }, .next)
    | "echo", "-n" :: args => ({ s.emit streams.out (" ".intercalate args) with status := 0 }, .next)
    | "echo", args => ({ s.emit streams.out (" ".intercalate args ++ "\n") with status := 0 }, .next)
    | "printf", format :: args =>
      let text := formatAll format.toList (args.length + 1) args
      ({ s.emit streams.out (String.ofList text) with status := 0 }, .next)
    | "exit", [] => (s, .ended (.code (s.status % 256)))
    | "exit", code :: _ =>
      match code.toNat? with
      | some n => (s, .ended (.code (n % 256)))
      | none =>
        (s.emit streams.err s!"{s.program}: 2: exit: Illegal number: {code}\n", .ended (.code 2))
    | "test", args => ({ s with status := statusOf (s.test? args) }, .next)
    | "[", args =>
      if args.getLast? = some "]" then
        ({ s with status := statusOf (s.test? args.dropLast) }, .next)
      else ({ s with status := 2 }, .next)
    | "shift", _ => ({ s with args := s.args.drop 1, status := 0 }, .next)
    | "export", args => (args.foldl State.assign { s with status := 0 }, .next)
    | "unset", names =>
      ({ s with vars := names.foldl TextTable.erase s.vars, status := 0 }, .next)
    | "read", names => (names.foldl (fun s name => s.assign (name ++ "=")) { s with status := 1 }, .next)
    | "touch", paths =>
      match paths.foldlM (fun s path => (s.openFile path true).map (·.1)) s with
      | some s => ({ s with status := 0 }, .next)
      | none => ({ s with status := 1 }, .next)
    | "cat", paths => (s.show streams paths, .next)
    | "trap", action :: signals => ({ s.setTrap action signals with status := 0 }, .next)
    | "sleep", args => s.pause (milliseconds (args.head?.getD ""))
    | "exec", "sleep" :: args => s.becomePause (milliseconds (args.head?.getD ""))
    | "exec", name :: args =>
      match runFields fuel streams (name :: args) s with
      | (s, .next) => (s, .ended (.code s.status))
      | ended => ended
    | "kill", "-s" :: signal :: targets => killSelf fuel streams (signalNumber signal) targets s
    | "kill", [target] => killSelf fuel streams (signalNumber "TERM") [target] s
    | "kill", signal :: targets => killSelf fuel streams (signalOption? signal) targets s
    | name, args =>
      match assignment? name, args with
      | some _, [] => ({ s.assign name with status := 0 }, .next)
      | _, _ =>
        ({ s.emit streams.err s!"{s.program}: 2: {name}: not found\n" with status := 127 }, .next)

/-- Sends a signal to the script itself. Signal 0 only asks whether it is there. -/
def killSelf : (fuel : Nat) → Streams → (signal : Option Nat) → (targets : List String) → State →
    State × Flow
  | 0, _, _, _, s => (s, .running s.ignoresInterrupt)
  | fuel + 1, streams, signal, targets, s =>
    match targets.contains (toString s.pid), signal with
    | true, some 0 => ({ s with status := 0 }, .next)
    | true, some number =>
      match s.trap? number with
      | some action =>
        if number = Signal.kill.number then (s, .ended (.signal number))
        else runText fuel streams action { s with status := 0 }
      | none => (s, .ended (.signal number))
    | _, _ => ({ s with status := 1 }, .next)

end

/-- The most steps that a script is followed for. -/
def stepLimit : Nat := 100000

/-- Runs a script from its beginning until it ends or the deadline has come. -/
def run (script : String) (s : State) : State × Flow :=
  match parse script with
  | none => (s.emit .outside (s.program ++ ": 2: Syntax error\n"), .ended (.code 2))
  | some commands =>
    match runList stepLimit {} commands s with
    | (s, .next) =>
      match poll stepLimit {} s with
      | (s, .next) => (s, .ended (.code s.status))
      | ended => ended
    | ended => ended

end PortTunnel.Machine.Shell
