import PortTunnel.Json.Node
import PortTunnel.Text.Utf8

/-!
# Reading JSON

From characters to `Json.Node`. Offsets count bytes of the text's UTF-8 form.

* `Document.ofChars`: reads a whole text.
* `Json.parse`: its value, or the first fault.

The nesting of values bounds the recursion, so each step takes from a fuel of twice the
length of the text, which never runs out.
-/

namespace PortTunnel.Json

/-- What is left of the text, and the offset of its first character. -/
structure Cursor where
  rest : List Char
  pos : Nat

def isSpace (c : Char) : Bool := c = ' ' || c = '\n' || c = '\t' || c = '\r'

/-- Passes over the blanks of the format, each of them one byte. -/
def Cursor.skipSpace (c : Cursor) : Cursor :=
  ⟨c.rest.dropWhile isSpace, c.pos + (c.rest.takeWhile isSpace).length⟩

/-! ## Numbers -/

def digitsValue (ds : List Char) : Nat := ds.foldl (fun n d => n * 10 + (d.toNat - 48)) 0

/-- The largest significand that is kept; later digits only move the point. -/
def maxSignificand : Nat := Nat.pow 2 64 - 1

/-- The largest exponent that is kept. -/
def maxExponent : Nat := Nat.pow 2 31 - 1

/-- Adds digits to a significand while it fits; also the digits that no longer do. -/
def takeSignificand (n : Nat) : List Char → Nat × List Char
  | [] => (n, [])
  | d :: ds =>
    let m := n * 10 + (d.toNat - 48)
    if m ≤ maxSignificand then takeSignificand m ds else (n, d :: ds)

/-- `significand * 10 ^ exponent` in binary64: the significand is rounded first, and each
factor of ten is one more rounding. None if the result is not finite. -/
def scale (f : Float) (exponent : Int) : Nat → Option Float
  | 0 => some f
  | fuel + 1 =>
    if exponent.natAbs ≤ 308 then
      let power := Float.ofScientific 1 false exponent.natAbs
      if 0 ≤ exponent then
        let g := f * power
        if g.isInf then none else some g
      else some (f / power)
    else if f == 0.0 then some f
    else if 0 ≤ exponent then none
    else scale (f / Float.ofScientific 1 false 308) (exponent + 308) fuel

/-- The parts of a number as written. -/
structure NumberText where
  negative : Bool
  whole : List Char
  fraction : Option (List Char)
  /-- Whether the exponent is negative, and its digits. -/
  power : Option (Bool × List Char)

/-- How many digits of an exponent are read before it is too large, if it ever is. -/
def exponentLimit? (n : Nat) (count : Nat) : List Char → Option Nat
  | [] => none
  | d :: ds =>
    let m := n * 10 + (d.toNat - 48)
    if m ≤ maxExponent then exponentLimit? m (count + 1) ds else some (count + 1)

/-- A binary64 number as a JSON number. -/
def Number.ofFloat (negative : Bool) (f : Float) : Number :=
  .real (if negative then (-f) else f).toBits

/-- The value of a number that is written from `start` to `stop`, its exponent's digits
from `powerStart` on. -/
def NumberText.value (t : NumberText) (stop powerStart : Nat) : Except Fault Number :=
  let (significand, beyond) := takeSignificand 0 t.whole
  match t.fraction, t.power, beyond with
  | none, none, [] =>
    if !t.negative then .ok (.int significand)
    else if significand = 0 then .ok (.ofFloat true 0.0)
    else if significand ≤ Nat.pow 2 63 then .ok (.int (-significand))
    else .ok (.ofFloat true (UInt64.ofNat significand).toFloat)
  | fraction, power, _ =>
    let (significand, dropped) := takeSignificand significand (fraction.getD [])
    let shift : Int := beyond.length - ((fraction.getD []).length - dropped.length : Nat)
    let finish (exponent : Int) : Except Fault Number :=
      match scale (UInt64.ofNat significand).toFloat exponent 8 with
      | some f => .ok (.ofFloat t.negative f)
      | none => .error (.here .numberTooLarge stop)
    match power with
    | none => finish shift
    | some (down, ds) =>
      match exponentLimit? 0 0 ds with
      | some count =>
        if significand ≠ 0 && !down then .error (.here .numberTooLarge (powerStart + count))
        else .ok (.ofFloat t.negative 0.0)
      | none =>
        let e : Int := digitsValue ds
        finish (if down then shift - e else shift + e)

/-- A scalar that was read, or the faults of its break. -/
inductive Scalar where
  | read (node : Node) (next : Cursor)
  | broken (reading skipping : Fault)

/-- A break that reads and skips alike. -/
def Scalar.fault (issue : Issue) (offset : Nat) : Scalar :=
  .broken (.here issue offset) (.here issue offset)

/-- A break in a number: one who reads tells the end of the text from a foreign character. -/
def Scalar.numberBreak (rest : List Char) (offset : Nat) : Scalar :=
  match rest with
  | [] => .broken (.here .endInValue offset) (.here .badNumber offset)
  | _ :: _ => .fault .badNumber (offset + 1)

/-- The exponent, behind its letter. -/
def readPower (start : Nat) (negative : Bool) (whole : List Char) (fraction : Option (List Char))
    (cs : List Char) (pos : Nat) : Scalar :=
  let (down, cs, pos) := match cs with
    | '+' :: cs => (false, cs, pos + 1)
    | '-' :: cs => (true, cs, pos + 1)
    | cs => (false, cs, pos)
  let ds := cs.takeWhile Char.isDigit
  if ds.isEmpty then .numberBreak cs pos
  else
    let stop := pos + ds.length
    .read (.number start stop
      ((NumberText.mk negative whole fraction (some (down, ds))).value stop pos))
      ⟨cs.drop ds.length, stop⟩

/-- The fraction, if there is one, and the exponent. -/
def readFraction (start : Nat) (negative : Bool) (whole : List Char) (cs : List Char) (pos : Nat) :
    Scalar :=
  match cs with
  | '.' :: cs =>
    let ds := cs.takeWhile Char.isDigit
    let rest := cs.drop ds.length
    let pos := pos + 1 + ds.length
    if ds.isEmpty then .numberBreak rest pos
    else match rest with
      | 'e' :: rest => readPower start negative whole (some ds) rest (pos + 1)
      | 'E' :: rest => readPower start negative whole (some ds) rest (pos + 1)
      | rest =>
        .read (.number start pos ((NumberText.mk negative whole (some ds) none).value pos pos))
          ⟨rest, pos⟩
  | 'e' :: cs => readPower start negative whole none cs (pos + 1)
  | 'E' :: cs => readPower start negative whole none cs (pos + 1)
  | cs =>
    .read (.number start pos ((NumberText.mk negative whole none none).value pos pos)) ⟨cs, pos⟩

/-- A number, behind its sign. A leading zero stands alone. -/
def readNumber (start : Nat) (negative : Bool) (cs : List Char) (pos : Nat) : Scalar :=
  let ds := cs.takeWhile Char.isDigit
  match ds with
  | [] => .numberBreak cs pos
  | '0' :: _ :: _ => .fault .badNumber (pos + 2)
  | ds => readFraction start negative ds (cs.drop ds.length) (pos + ds.length)

/-! ## Strings -/

def hexValue? (c : Char) : Option Nat :=
  let n := c.toNat
  if 48 ≤ n ∧ n ≤ 57 then some (n - 48)
  else if 65 ≤ n ∧ n ≤ 70 then some (n - 55)
  else if 97 ≤ n ∧ n ≤ 102 then some (n - 87)
  else none

def hex4? (a b c d : Char) : Option Nat := do
  let a ← hexValue? a
  let b ← hexValue? b
  let c ← hexValue? c
  let d ← hexValue? d
  some (((a * 16 + b) * 16 + c) * 16 + d)

/-- The character of a one-letter escape. -/
def shortEscape? (c : Char) : Option Char :=
  if c = '"' ∨ c = '\\' ∨ c = '/' then some c
  else if c = 'b' then some '\x08'
  else if c = 'f' then some '\x0c'
  else if c = 'n' then some '\n'
  else if c = 'r' then some '\r'
  else if c = 't' then some '\t'
  else none

/-- The break of an escape whose four digits are not there: the text ends among them, or
they are no digits. -/
def hexIssue (cs : List Char) (pos : Nat) : Fault :=
  let size := Text.Utf8.size (cs.take 4)
  if size < 4 then .here .endInString (pos + size) else .here .badEscape (pos + 4)

/-- The fault of what follows the first half of a surrogate pair, if it is no escape. -/
def afterLead? (cs : List Char) (pos : Nat) : Option Fault :=
  match cs with
  | '\\' :: 'u' :: _ => none
  | ['\\'] => some (.here .endInString (pos + 1))
  | '\\' :: _ => some (.here .escapeCutShort (pos + 2))
  | [] => some (.here .endInString pos)
  | _ => some (.here .escapeCutShort (pos + 1))

/-- What has been read of a string: its characters, last first; the first half of a pair,
if one was just read; the first fault of its meaning. -/
structure Partial where
  chars : List Char
  lead : Option Nat
  fault : Option Fault

def Partial.push (p : Partial) (c : Char) : Partial := ⟨c :: p.chars, none, p.fault⟩

/-- Adds the unit of a numeric escape that ends at `stop`. -/
def Partial.pushUnit (p : Partial) (n stop : Nat) : Partial :=
  let trailing := 0xDC00 ≤ n && n ≤ 0xDFFF
  match p.lead with
  | some lead =>
    if trailing then p.push (Char.ofNat ((lead - 0xD800) * 1024 + (n - 0xDC00) + 0x10000))
    else ⟨p.chars, none, p.fault <|> some (.here .loneSurrogate stop)⟩
  | none =>
    if trailing then ⟨p.chars, none, p.fault <|> some (.here .loneSurrogate stop)⟩
    else if 0xD800 ≤ n && n ≤ 0xDBFF then ⟨p.chars, some n, p.fault⟩
    else p.push (Char.ofNat n)

/-- Takes note of a first half that is not followed by an escape. -/
def Partial.settle (p : Partial) (cs : List Char) (pos : Nat) : Partial :=
  if p.lead.isSome then ⟨p.chars, p.lead, p.fault <|> afterLead? cs pos⟩ else p

/-- A string that was read up to its closing quote, or the faults of its break. -/
inductive StringRead where
  | read (value : Except Fault String) (next : Cursor)
  | broken (reading skipping : Fault)

def Partial.breakAt (p : Partial) (reading skipping : Fault) : StringRead :=
  .broken (p.fault.getD reading) skipping

def Partial.result (p : Partial) : Except Fault String :=
  match p.fault with
  | some f => .error f
  | none => .ok (String.ofList p.chars.reverse)

/-- The characters up to the closing quote. -/
def readStringFrom (p : Partial) (pos : Nat) : List Char → StringRead
  | [] => (p.settle [] pos).breakAt (.here .endInString pos) (.here .endInString pos)
  | '"' :: rest => .read (p.settle ('"' :: rest) pos).result ⟨rest, pos + 1⟩
  | '\\' :: rest =>
    let p := p.settle ('\\' :: rest) pos
    match rest with
    | [] => p.breakAt (.here .endInString (pos + 1)) (.here .endInString (pos + 1))
    | 'u' :: rest =>
      match rest with
      | a :: b :: c :: d :: rest' =>
        match hex4? a b c d with
        | some n => readStringFrom (p.pushUnit n (pos + 6)) (pos + 6) rest'
        | none =>
          let f := hexIssue (a :: b :: c :: d :: rest') (pos + 2)
          p.breakAt f f
      | rest =>
        let f := hexIssue rest (pos + 2)
        p.breakAt f f
    | e :: rest =>
      match shortEscape? e with
      | some c => readStringFrom (p.push c) (pos + 2) rest
      | none => p.breakAt (.here .badEscape (pos + 2)) (.here .badEscape (pos + 2))
  | c :: rest =>
    let p := p.settle (c :: rest) pos
    if c.toNat < 0x20 then
      p.breakAt (.here .controlInString (pos + 1)) (.here .controlInString pos)
    else readStringFrom (p.push c) (pos + c.utf8Size) rest

/-- A string, behind its opening quote. -/
def readString (cs : List Char) (pos : Nat) : StringRead := readStringFrom ⟨[], none, none⟩ pos cs

/-! ## Words -/

/-- The letters of a word, one by one. -/
def readWord (pos : Nat) : (word text : List Char) → Except Fault Cursor
  | [], cs => .ok ⟨cs, pos⟩
  | _ :: _, [] => .error (.here .endInValue pos)
  | w :: ws, c :: cs => if w = c then readWord (pos + 1) ws cs else .error (.here .wordDue (pos + 1))

/-- A word as a scalar. -/
def readWordAs (start : Nat) (word text : List Char) (node : Nat → Node) : Scalar :=
  match readWord start word text with
  | .ok next => .read (node next.pos) next
  | .error f => .broken f f

/-- A value that is neither an array nor an object, at its first character. -/
def readScalar (start : Nat) (cs : List Char) : Scalar :=
  match cs with
  | [] => .fault .endInValue start
  | 'n' :: _ => readWordAs start ['n', 'u', 'l', 'l'] cs fun stop => .null start stop
  | 't' :: _ => readWordAs start ['t', 'r', 'u', 'e'] cs fun stop => .bool start stop true
  | 'f' :: _ => readWordAs start ['f', 'a', 'l', 's', 'e'] cs fun stop => .bool start stop false
  | '-' :: cs => readNumber start true cs (start + 1)
  | '"' :: cs =>
    match readString cs (start + 1) with
    | .read value next => .read (.string start next.pos value) next
    | .broken reading skipping => .broken reading skipping
  | c :: _ => if c.isDigit then readNumber start false cs start else .fault .valueDue (start + 1)

/-! ## Values -/

/-- What ends the reading of a part: the rest of the text, or a break. -/
abbrev Next := Option Cursor

/-- A break that reads, skips and leaves alike. -/
def Items.fault (issue : Issue) (offset : Nat) : Items :=
  .broken (.here issue offset) (.here issue offset) (.here issue offset)

def Members.fault (issue : Issue) (offset : Nat) : Members :=
  .broken (.here issue offset) (.here issue offset)

mutual

/-- A value, with the blanks before it. -/
def readValue : Nat → Cursor → Node × Next
  | 0, c => (.broken c.pos (.here .endInValue c.pos) (.here .endInValue c.pos), none)
  | fuel + 1, c =>
    let ⟨cs, pos⟩ := c.skipSpace
    match cs with
    | '[' :: rest =>
      let ⟨cs, here⟩ := Cursor.skipSpace ⟨rest, pos + 1⟩
      match cs with
      | [] => (.array pos (.fault .endInArray here), none)
      | ']' :: rest => (.array pos (.closed (here + 1)), some ⟨rest, here + 1⟩)
      | cs =>
        let (items, next) := readItems fuel ⟨cs, here⟩
        (.array pos items, next)
    | '\x7b' :: rest =>
      let ⟨cs, here⟩ := Cursor.skipSpace ⟨rest, pos + 1⟩
      match cs with
      | [] => (.object pos (.fault .endInObject here), none)
      | '\x7d' :: rest => (.object pos (.closed (here + 1)), some ⟨rest, here + 1⟩)
      | '"' :: rest =>
        let (members, next) := readMembers fuel ⟨rest, here + 1⟩
        (.object pos members, next)
      | _ => (.object pos (.fault .keyNotText (here + 1)), none)
    | cs =>
      match readScalar pos cs with
      | .read node next => (node, some next)
      | .broken reading skipping => (.broken pos reading skipping, none)

/-- The items from one that is due on. -/
def readItems : Nat → Cursor → Items × Next
  | 0, c => (.fault .endInArray c.pos, none)
  | fuel + 1, c =>
    match readValue fuel c with
    | (node, none) => (.item node 0 (.closed 0), none)
    | (node, some c) =>
      let ⟨cs, pos⟩ := c.skipSpace
      match cs with
      | [] => (.item node pos (.fault .endInArray pos), none)
      | ']' :: rest => (.item node (pos + 1) (.closed (pos + 1)), some ⟨rest, pos + 1⟩)
      | ',' :: rest =>
        let ⟨cs, pos⟩ := Cursor.skipSpace ⟨rest, pos + 1⟩
        match cs with
        | [] =>
          (.item node pos (.broken (.here .endInValue pos) (.here .endInValue pos)
            (.here .textAfterEnd pos)), none)
        | ']' :: _ =>
          (.item node pos (.broken (.here .commaAtEnd (pos + 1)) (.here .valueDue (pos + 1))
            (.here .commaAtEnd (pos + 1))), none)
        | cs =>
          let (rest, next) := readItems fuel ⟨cs, pos⟩
          (.item node pos rest, next)
      | _ =>
        (.item node pos (.broken (.here .arrayCommaDue (pos + 1)) (.here .arrayCommaDue (pos + 1))
          (.here .textAfterEnd (pos + 1))), none)

/-- The members from one whose opening quote has been read on. -/
def readMembers : Nat → Cursor → Members × Next
  | 0, c => (.fault .endInObject c.pos, none)
  | fuel + 1, c =>
    match readString c.rest c.pos with
    | .broken reading skipping => (.broken reading skipping, none)
    | .read name next =>
      let ⟨cs, pos⟩ := next.skipSpace
      match cs with
      | ':' :: rest =>
        match readValue fuel ⟨rest, pos + 1⟩ with
        | (value, none) => (.member name pos value 0 (.closed 0), none)
        | (value, some c) =>
          let nameAfter := pos
          let ⟨cs, pos⟩ := c.skipSpace
          match cs with
          | [] => (.member name nameAfter value pos (.fault .endInObject pos), none)
          | '\x7d' :: rest =>
            (.member name nameAfter value (pos + 1) (.closed (pos + 1)), some ⟨rest, pos + 1⟩)
          | ',' :: rest =>
            let after := pos
            let ⟨cs, pos⟩ := Cursor.skipSpace ⟨rest, pos + 1⟩
            match cs with
            | '"' :: rest =>
              let (members, next) := readMembers fuel ⟨rest, pos + 1⟩
              (.member name nameAfter value after members, next)
            | [] =>
              (.member name nameAfter value after
                (.broken (.here .endInValue pos) (.here .endInObject pos)), none)
            | '\x7d' :: _ =>
              (.member name nameAfter value after
                (.broken (.here .commaAtEnd (pos + 1)) (.here .keyNotText (pos + 1))), none)
            | _ => (.member name nameAfter value after (.fault .keyNotText (pos + 1)), none)
          | _ => (.member name nameAfter value pos (.fault .objectCommaDue (pos + 1)), none)
      | [] =>
        let f := Fault.here .endInObject pos
        (.member name pos (.broken pos f f) 0 (.closed 0), none)
      | c :: _ =>
        let f := Fault.here .colonDue (pos + 1)
        (.member name (if c = '\x7d' then pos + 1 else pos) (.broken pos f f) 0 (.closed 0), none)

end

/-! ## Documents -/

/-- Reads a whole text. -/
def Document.ofChars (text : List Char) : Document :=
  match readValue (2 * text.length + 2) ⟨text, 0⟩ with
  | (root, none) => ⟨root, none⟩
  | (root, some c) =>
    let ⟨cs, pos⟩ := c.skipSpace
    ⟨root, if cs.isEmpty then none else some (.here .textAfterEnd (pos + 1))⟩

/-- How deep arrays and objects may nest in a text that is read as a value: one less. -/
def depthLimit : Nat := 128

/-- The value of a text, or its first fault. Of members with one name the last counts. -/
def parse (text : List Char) : Except Fault Json :=
  let d := Document.ofChars text
  match d.root.readFault? depthLimit <|> d.trailing with
  | some f => .error f
  | none => .ok (d.root.value?.getD .null).normal

end PortTunnel.Json
