import PortTunnel.Json.Node
import PortTunnel.Schema.Shape

/-!
# Reading records

Values of a shape from a document. A record is read in the order of the text, so that of
two faults the one that stands first is reported. What a union holds is first read as a
whole and then taken apart; faults that are found only then have no place of their own.

* `Mode`: reading along the text, or from a value that is already in memory.
* `Shape.read`: the value of a node.
-/

namespace PortTunnel.Schema

open Json (Node Items Members Fault Issue Found)
open Text (TextTable)

/-- How a node is met. -/
inductive Mode where
  /-- Along the text, with room for `room - 1` more levels of arrays and objects. -/
  | streamed (room : Nat)
  /-- In memory, free of faults of syntax; places in the text are forgotten. -/
  | buffered
  deriving DecidableEq, Repr

/-- A fault at an offset, if the mode knows places. -/
def Mode.fault (m : Mode) (issue : Issue) (offset : Nat) : Fault :=
  match m with
  | .streamed _ => .here issue offset
  | .buffered => ⟨issue, none⟩

/-- A fault from within takes the place at which its record is left. -/
def Mode.within {α : Type} (m : Mode) (offset : Nat) (r : Except Fault α) : Except Fault α :=
  match m with
  | .streamed _ => r.mapError (·.orHere offset)
  | .buffered => r

/-- Enters an array or object that starts at an offset. -/
def Mode.enter (m : Mode) (start : Nat) : Except Fault Mode :=
  match m with
  | .streamed room =>
    if room ≤ 1 then .error (.here .tooDeep (start + 1)) else .ok (.streamed (room - 1))
  | .buffered => .ok .buffered

/-- Fails with the fault, if there is one. -/
def failIf (f : Option Fault) : Except Fault Unit :=
  match f with
  | some f => .error f
  | none => .ok ()

/-- The fault of a node that is of another kind than expected. -/
def mismatch (m : Mode) (expected : String) : Node → Fault
  | .null _ stop => m.fault (.wrongType .null expected) stop
  | .bool _ stop b => m.fault (.wrongType (.bool b) expected) stop
  | .number _ stop (.ok n) => m.fault (.wrongType (.number n) expected) stop
  | .number _ _ (.error f) => f
  | .string _ stop (.ok s) => m.fault (.wrongType (.string s) expected) stop
  | .string _ _ (.error f) => f
  | .array start _ => m.fault (.wrongType .array expected) start
  | .object start _ => m.fault (.wrongType .object expected) start
  | .broken _ reading _ => reading

/-! ## Plain values -/

def readText (expected : String) (m : Mode) : Node → Except Fault String
  | .string _ _ s => s
  | node => .error (mismatch m expected node)

def readFlag (m : Mode) : Node → Except Fault Bool
  | .bool _ _ b => .ok b
  | node => .error (mismatch m "a boolean" node)

/-- A natural number below a bound. -/
def readWord (expected : String) (bound : Nat) (m : Mode) : Node → Except Fault Nat
  | .number _ stop (.ok (.int n)) =>
    if 0 ≤ n ∧ n.toNat < bound then .ok n.toNat
    else .error (m.fault (.wrongValue (.number (.int n)) expected) stop)
  | node => .error (mismatch m expected node)

/-- The items of an array, each read alike. -/
def readList {α : Type} (read : Node → Except Fault α) : Items → Except Fault (List α)
  | .closed _ => .ok []
  | .broken reading _ _ => .error reading
  | .item node _ rest => do
    let x ← read node
    let xs ← readList read rest
    .ok (x :: xs)

/-- A value of any kind. -/
def readAny (m : Mode) (node : Node) : Except Fault Json :=
  let fault? := match m with
    | .streamed room => node.readFault? room
    | .buffered => none
  match fault? with
  | some f => .error f
  | none => .ok (node.value?.getD .null)

/-- A word out of a few. -/
def readChoice (title : String) (words : List String) (m : Mode) : Node → Except Fault String
  | .string _ stop (.ok s) =>
    if s ∈ words then .ok s else .error (m.fault (.unknownLabel s words) stop)
  | node => .error (mismatch m s!"enum {title}" node)

/-- Entries of a table, added to those before them. -/
def readTable (m : Mode) (t : TextTable) : Members → Except Fault TextTable
  | .closed _ => .ok t
  | .broken reading _ => .error reading
  | .member name _ value _ rest => do
    let k ← name
    let x ← readText "a string" m value
    readTable m (t.insert k x) rest

/-! ## Members and labels -/

/-- The node under a name; of several the first. -/
def findMember (name : String) : Members → Option Node
  | .closed _ => none
  | .broken _ _ => none
  | .member (.ok k) _ value _ rest => if k = name then some value else findMember name rest
  | .member (.error _) _ _ _ rest => findMember name rest

/-- Where an object ends. -/
def membersEnd : Members → Nat
  | .closed stop => stop
  | .broken _ _ => 0
  | .member _ _ _ _ rest => membersEnd rest

def itemsCount : Items → Nat
  | .item _ _ rest => itemsCount rest + 1
  | _ => 0

/-- "n elements" with its noun in the right number. -/
def countOf (n : Nat) (noun : String) : String := if n = 1 then s!"1 {noun}" else s!"{n} {noun}s"

/-- The label of a union. In memory a label may also be given by its number. -/
def readLabel (labels : List String) (m : Mode) (node : Node) : Except Fault String :=
  match node, m with
  | .string _ stop (.ok s), _ =>
    if s ∈ labels then .ok s else .error (m.fault (.unknownLabel s labels) stop)
  | .number _ _ (.ok (.int (.ofNat n))), .buffered =>
    match labels[n]? with
    | some label => .ok label
    | none =>
      .error ⟨.wrongValue (.number (.int n)) s!"variant index 0 <= i < {labels.length}", none⟩
  | node, _ => .error (mismatch m "variant identifier" node)

/-- The label in the members of a union, with all else read over in text order. -/
def scanLabel (tag : String) (labels : List String) (m : Mode) (found : Option String) :
    Members → Except Fault (Option String)
  | .closed _ => .ok found
  | .broken reading _ => .error reading
  | .member name nameAfter value _ rest => do
    let k ← name
    if k = tag then
      if found.isSome then .error (m.fault (.repeated tag) nameAfter)
      else
        let label ← readLabel labels m value
        scanLabel tag labels m (some label) rest
    else
      match m with
      | .streamed room => failIf (value.readFault? room)
      | .buffered => .ok ()
      scanLabel tag labels m found rest

/-- Reads the members in text order: each known one by its field and at most once, each
other one passed over. -/
def checkMembers (names : List String) (field : String → Node → Except Fault Unit) (m : Mode)
    (seen : List String) : Members → Except Fault Unit
  | .closed _ => .ok ()
  | .broken reading _ => .error reading
  | .member name nameAfter value after rest => do
    let k ← name
    if k ∈ names then
      if k ∈ seen then .error (m.fault (.repeated k) nameAfter)
      else
        m.within after (field k value)
        checkMembers names field m (k :: seen) rest
    else
      match m with
      | .streamed _ => failIf value.skipFault?
      | .buffered => .ok ()
      checkMembers names field m seen rest

/-! ## Shapes -/

mutual

def Shape.read : (s : Shape) → Mode → Node → Except Fault s.Val
  | .text expected, m, node => readText expected m node
  | .flag, m, node => readFlag m node
  | .word16, m, node => (readWord "u16" UInt16.size m node).map UInt16.ofNat
  | .word32, m, node => (readWord "u32" UInt32.size m node).map UInt32.ofNat
  | .choice title words, m, node => readChoice title words m node
  | .any, m, node => readAny m node
  | .list s, m, node =>
    match node with
    | .array start items => do
      let m ← m.enter start
      readList (fun node => s.read m node) items
    | node => .error (mismatch m "a sequence" node)
  | .table, m, node =>
    match node with
    | .object start members => do
      let m ← m.enter start
      readTable m .empty members
    | node => .error (mismatch m "a map" node)
  | .nullable s, m, node =>
    match node with
    | .null _ _ => .ok none
    | node => (s.read m node).map some
  | .record title fields, m, node =>
    match node with
    | .object start members => do
      let m ← m.enter start
      checkMembers fields.names (fun k node => fields.checkOne k m node) m [] members
      fields.extract m members
    | .array start items => do
      let m ← m.enter start
      fields.readItems title fields.length m 0 items
    | node => .error (mismatch m title node)
  | .union title tag cases, m, node =>
    match node with
    | .object start members => do
      let m ← m.enter start
      match ← scanLabel tag cases.labels m none members with
      | some label => cases.readMembers label members
      | none => .error (m.fault (.missing tag) (membersEnd members))
    | .array start items => do
      let m ← m.enter start
      match items with
      | .closed stop => .error (m.fault (.missing tag) stop)
      | .broken reading _ _ => .error reading
      | .item first _ rest =>
        let label ← readLabel cases.labels m first
        match m with
        | .streamed room => failIf (rest.readFault? room)
        | .buffered => .ok ()
        cases.readItems label rest
    | node => .error (mismatch m s!"internally tagged enum {title}" node)

/-- One member against the shape of its field. -/
def Fields.checkOne : (fs : Fields) → String → Mode → Node → Except Fault Unit
  | .nil, _, _, _ => .ok ()
  | .required name s rest, k, m, node =>
    if k = name then (s.read m node).map fun _ => () else rest.checkOne k m node
  | .optional name s rest, k, m, node =>
    if k = name then (s.read m node).map fun _ => () else rest.checkOne k m node

/-- The values of the fields, once the members have been checked. The first field that is
neither there nor may be absent is reported. -/
def Fields.extract : (fs : Fields) → Mode → Members → Except Fault fs.Val
  | .nil, _, _ => .ok ()
  | .required name s rest, m, members => do
    let v ← match findMember name members with
      | some node => s.read m node
      | none => s.absent m name (membersEnd members)
    let vs ← rest.extract m members
    .ok (v, vs)
  | .optional name s rest, m, members => do
    let v ← match findMember name members with
      | some node => (s.read m node).map some
      | none => .ok none
    let vs ← rest.extract m members
    .ok (v, vs)

/-- The value of a required field that is not there. -/
def Shape.absent : (s : Shape) → Mode → (name : String) → (stop : Nat) → Except Fault s.Val
  | .nullable _, _, _, _ => .ok none
  | .text _, m, name, stop => .error (m.fault (.missing name) stop)
  | .flag, m, name, stop => .error (m.fault (.missing name) stop)
  | .word16, m, name, stop => .error (m.fault (.missing name) stop)
  | .word32, m, name, stop => .error (m.fault (.missing name) stop)
  | .choice _ _, m, name, stop => .error (m.fault (.missing name) stop)
  | .any, m, name, stop => .error (m.fault (.missing name) stop)
  | .list _, m, name, stop => .error (m.fault (.missing name) stop)
  | .table, m, name, stop => .error (m.fault (.missing name) stop)
  | .record _ _, m, name, stop => .error (m.fault (.missing name) stop)
  | .union _ _ _, m, name, stop => .error (m.fault (.missing name) stop)

/-- The fields from the items of an array, `count` of them in all, from `index` on. -/
def Fields.readItems (title : String) (count : Nat) :
    (fs : Fields) → Mode → (index : Nat) → Items → Except Fault fs.Val
  | .nil, m, index, items =>
    match items with
    | .closed _ => .ok ()
    | .broken _ _ leaving => .error leaving
    | .item node after rest =>
      match m with
      | .streamed _ => .error (.here .textAfterEnd (node.start + 1))
      | .buffered =>
        .error ⟨.wrongLength (index + itemsCount (.item node after rest))
          (countOf count "element" ++ " in sequence"), none⟩
  | .required _ s rest, m, index, items =>
    match items with
    | .closed stop =>
      .error (m.fault (.wrongLength index (title ++ " with " ++ countOf count "element")) stop)
    | .broken reading _ _ => .error reading
    | .item node after items => do
      let v ← m.within after (s.read m node)
      let vs ← rest.readItems title count m (index + 1) items
      .ok (v, vs)
  | .optional _ s rest, m, index, items =>
    match items with
    | .closed stop => do
      let vs ← rest.readItems title count m (index + 1) (.closed stop)
      .ok (none, vs)
    | .broken reading _ _ => .error reading
    | .item node after items => do
      let v ← m.within after (s.read m node)
      let vs ← rest.readItems title count m (index + 1) items
      .ok (some v, vs)

/-- The case of a label, from members in memory. The tag is no field of a case, so it is
passed over with the unknown members. -/
def Cases.readMembers : (cs : Cases) → String → Members → Except Fault cs.Val
  | .nil, label, _ => .error ⟨.unknownLabel label [], none⟩
  | .case l _ fields rest, label, members =>
    if label = l then do
      checkMembers fields.names (fun k node => fields.checkOne k .buffered node) .buffered []
        members
      (fields.extract .buffered members).map .inl
    else (rest.readMembers label members).map .inr

/-- The case of a label, from items in memory. -/
def Cases.readItems : (cs : Cases) → String → Items → Except Fault cs.Val
  | .nil, label, _ => .error ⟨.unknownLabel label [], none⟩
  | .case l title fields rest, label, items =>
    if label = l then (fields.readItems title fields.length .buffered 0 items).map .inl
    else (rest.readItems label items).map .inr

end

/-- The value of a JSON value in memory. -/
def Shape.readJson (s : Shape) (j : Json) : Except Fault s.Val := s.read .buffered (Node.ofJson j)

/-- The value of a whole text. -/
def Shape.readDocument (s : Shape) (room : Nat) (d : Json.Document) : Except Fault s.Val := do
  let v ← s.read (.streamed room) d.root
  failIf d.trailing
  .ok v

end PortTunnel.Schema
