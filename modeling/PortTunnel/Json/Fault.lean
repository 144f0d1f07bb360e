import PortTunnel.Json.Basic
import PortTunnel.Text.Quoted

/-!
# Faults of a document

What can be wrong with a JSON text, in its syntax or against the type it is read as, and
where.

* `Json.Issue`: the cause, with its wording.
* `Json.Fault`: a cause and, where one is known, the byte offset at which it was noticed.
* `Json.Position.ofOffset`: line and column of an offset.
-/

namespace PortTunnel.Json

/-- What was found where something else was expected. -/
inductive Found where
  | null
  | bool (value : Bool)
  | number (value : Number)
  | string (value : String)
  | array
  | object
  deriving DecidableEq, Repr

def Found.text : Found → String
  | .null => "null"
  | .bool value => "boolean `" ++ (if value then "true" else "false") ++ "`"
  | .number (.int value) => s!"integer `{value}`"
  | .number (.real bits) => s!"floating point `{Decimal.text bits}`"
  | .string value => "string " ++ Text.Quoted.quote value
  | .array => "sequence"
  | .object => "map"

inductive Issue where
  | endInValue
  | endInArray
  | endInObject
  | endInString
  | colonDue
  | arrayCommaDue
  | objectCommaDue
  | valueDue
  | wordDue
  | badEscape
  | badNumber
  | numberTooLarge
  | controlInString
  | keyNotText
  | loneSurrogate
  | escapeCutShort
  | commaAtEnd
  | textAfterEnd
  | tooDeep
  | wrongType (found : Found) (expected : String)
  | wrongValue (found : Found) (expected : String)
  | wrongLength (length : Nat) (expected : String)
  | missing (name : String)
  | repeated (name : String)
  | unknownLabel (label : String) (known : List String)
  deriving DecidableEq, Repr

/-- The known labels, each in its quotes. -/
def Issue.choices (known : List String) : String :=
  match known with
  | [] => "there are no variants"
  | [a] => s!"expected `{a}`"
  | [a, b] => s!"expected `{a}` or `{b}`"
  | _ => "expected one of " ++ ", ".intercalate (known.map fun k => s!"`{k}`")

def Issue.message : Issue → String
  | .endInValue => "EOF while parsing a value"
  | .endInArray => "EOF while parsing a list"
  | .endInObject => "EOF while parsing an object"
  | .endInString => "EOF while parsing a string"
  | .colonDue => "expected `:`"
  | .arrayCommaDue => "expected `,` or `]`"
  | .objectCommaDue => "expected `,` or `\x7d`"
  | .valueDue => "expected value"
  | .wordDue => "expected ident"
  | .badEscape => "invalid escape"
  | .badNumber => "invalid number"
  | .numberTooLarge => "number out of range"
  | .controlInString => "control character (\\u0000-\\u001F) found while parsing a string"
  | .keyNotText => "key must be a string"
  | .loneSurrogate => "lone leading surrogate in hex escape"
  | .escapeCutShort => "unexpected end of hex escape"
  | .commaAtEnd => "trailing comma"
  | .textAfterEnd => "trailing characters"
  | .tooDeep => "recursion limit exceeded"
  | .wrongType found expected => s!"invalid type: {found.text}, expected {expected}"
  | .wrongValue found expected => s!"invalid value: {found.text}, expected {expected}"
  | .wrongLength length expected => s!"invalid length {length}, expected {expected}"
  | .missing name => s!"missing field `{name}`"
  | .repeated name => s!"duplicate field `{name}`"
  | .unknownLabel label known => s!"unknown variant `{label}`, " ++ Issue.choices known

/-- A cause and the byte offset just behind which it was noticed. -/
structure Fault where
  issue : Issue
  offset : Option Nat
  deriving DecidableEq, Repr

/-- A fault at an offset. -/
def Fault.here (issue : Issue) (offset : Nat) : Fault := ⟨issue, some offset⟩

/-- A fault without a place takes the one given. -/
def Fault.orHere (f : Fault) (offset : Nat) : Fault := ⟨f.issue, f.offset <|> some offset⟩

/-! ## Positions -/

/-- A line, counted from one, and the number of bytes on it before the position. -/
structure Position where
  line : Nat
  column : Nat
  deriving DecidableEq, Repr

/-- The position `offset` bytes further on, counted from `p`. -/
def Position.advance (p : Position) : List Char → Nat → Position
  | [], _ => p
  | c :: cs, offset =>
    if offset = 0 then p
    else if c = '\n' then Position.advance ⟨p.line + 1, 0⟩ cs (offset - 1)
    else if c.utf8Size ≤ offset then
      Position.advance ⟨p.line, p.column + c.utf8Size⟩ cs (offset - c.utf8Size)
    else ⟨p.line, p.column + offset⟩

/-- Line and column of a byte offset. -/
def Position.ofOffset (text : List Char) (offset : Nat) : Position :=
  Position.advance ⟨1, 0⟩ text offset

/-- The wording of a fault of a text, with its place if it has one. -/
def Fault.message (f : Fault) (text : List Char) : String :=
  match f.offset with
  | some offset =>
    let p := Position.ofOffset text offset
    s!"{f.issue.message} at line {p.line} column {p.column}"
  | none => f.issue.message

end PortTunnel.Json
