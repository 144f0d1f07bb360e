import PortTunnel.Logging.Level
import PortTunnel.Text.Blank
import PortTunnel.Text.Letters
import PortTunnel.Text.Utf8

/-!
# Directives of a log filter

A directive gives a level to a part of the log: to a target, to a span, to a field, or to
everything, as in `target[span{field=value}]=level`. All its parts but one may be left out;
what is left out applies to all.

* `Directive.parse`: a directive from its text.
* `Directive.text`: the text under which it is shown.
-/

namespace PortTunnel.Logging

structure Field where
  name : String
  value : Option String
  deriving DecidableEq, Repr

def Field.text (f : Field) : String :=
  match f.value with
  | none => f.name
  | some value => s!"{f.name}={value}"

structure Directive where
  level : Level := .trace
  target : Option String := none
  span : Option String := none
  field : Option Field := none
  deriving DecidableEq, Repr

namespace Directive

/-! ## Reading -/

/-- The part of a directive that is being read, with the place at which it begins. -/
inductive Part where
  | start
  /-- A level or a target; which of them is known at the end. -/
  | word (first : Nat)
  | span (first : Nat)
  | field (first : Nat)
  /-- Behind the field of a span. -/
  | fieldEnd
  /-- Behind a span. -/
  | spanEnd
  | level (first : Nat)
  deriving DecidableEq, Repr

/-- The bytes from a place up to another, as text. -/
def slice? (bytes : List UInt8) (first last : Nat) : Option String :=
  match Text.Utf8.decode ((bytes.take last).drop first) with
  | .ok cs => some (String.ofList cs)
  | .error _ => none

/-- A field, which may be compared with a value. -/
def field? (s : String) : Option Field :=
  match s.splitOn "=" with
  | [] => none
  | [name] => if name = "" then none else some ⟨name, none⟩
  | name :: value :: _ => some ⟨name, some value⟩

/-- The level behind the sign; nothing stands for all. -/
def level? (s : String) : Option Level := if s = "" then some .trace else Level.ofText? s

/-- A directive of a single word, which is a level if it can be one. -/
def ofWord (s : String) : Directive :=
  match Level.ofText? s with
  | some level => { level := level }
  | none => { target := some s }

def opensWord (c : Char) : Bool := c = '-' || c = ':' || c = '_' || Text.isLetterOrNumber c

/-- One character at a place. -/
def step (bytes : List UInt8) (d : Directive) (part : Part) (place : Nat) (c : Char) :
    Option (Directive × Part) :=
  match part with
  | .start =>
    if c = '[' then some (d, .span (place + 1))
    else if opensWord c then some (d, .word place)
    else none
  | .word first =>
    if c = '=' then
      (slice? bytes first place).map fun s => ({ d with target := some s }, .level (place + 1))
    else if c = '[' then
      (slice? bytes first place).map fun s => ({ d with target := some s }, .span (place + 1))
    else some (d, part)
  | .span first =>
    if c = ']' then
      (slice? bytes first place).map fun s => ({ d with span := some s }, .spanEnd)
    else if c = '\x7b' then
      (slice? bytes first place).map fun s =>
        ({ d with span := if s = "" then none else some s }, .field (place + 1))
    else some (d, part)
  | .field first =>
    if c = '\x7d' then
      ((slice? bytes first place).bind field?).map fun f => ({ d with field := some f }, .fieldEnd)
    else some (d, part)
  | .fieldEnd => if c = ']' then some (d, .spanEnd) else none
  | .spanEnd => if c = '=' then some (d, .level (place + 1)) else none
  | .level _ => some (d, part)

def finish (bytes : List UInt8) (d : Directive) : Part → Option Directive
  | .word first => (slice? bytes first bytes.length).map ofWord
  | .level first =>
    ((slice? bytes first bytes.length).bind level?).map fun level => { d with level := level }
  | .spanEnd => some d
  | _ => none

def scan (bytes : List UInt8) (d : Directive) (part : Part) (place : Nat) :
    List Char → Option Directive
  | [] => finish bytes d part
  | c :: cs =>
    match step bytes d part place c with
    | none => none
    | some (d, part) => scan bytes d part (place + c.utf8Size) cs

/-- A directive, if the text is one. Places are counted in the text without the blanks
around it, and parts are cut out of the text as it is; so blanks in front of a directive
shift its parts. -/
def parse (s : String) : Option Directive :=
  scan (Text.Utf8.encode s.toList) {} .start 0 (Text.trimChars s.toList)

/-! ## Writing -/

/-- The brackets of a span, if there is anything to write in them. -/
def brackets (span : Option String) (field : Option String) : String :=
  if span.isNone && field.isNone then ""
  else
    let inner := match field with
      | some f => "\x7b" ++ f ++ "\x7d"
      | none => ""
    "[" ++ span.getD "" ++ inner ++ "]"

/-- The level behind what it applies to. -/
def labelled (label : String) (level : Level) : String :=
  if label = "" then level.name else label ++ "=" ++ level.name

/-- Whether a directive looks at what happens inside of spans. -/
def isDynamic (d : Directive) : Bool := d.span.isSome || d.field.isSome

end Directive

end PortTunnel.Logging
