import PortTunnel.Json.Fault

/-!
# Documents as read

A text read as JSON up to its first break, with the byte offset of every part. A fault of
the syntax is a leaf of the tree, so that whoever walks the tree in text order meets faults
of syntax and faults of meaning in the order in which they stand in the text.

* `Node`, `Items`, `Members`: values, the items of an array, the members of an object.
* `Node.value?`: the value that a tree without faults stands for.
* `Node.readFault?`, `Node.skipFault?`: the first fault that is met by one who reads the
  value and by one who passes over it. The latter decodes no string and weighs no number.
-/

namespace PortTunnel.Json

mutual

inductive Node where
  | null (start stop : Nat)
  | bool (start stop : Nat) (value : Bool)
  /-- A number of sound form; it may still be too large. -/
  | number (start stop : Nat) (value : Except Fault Number)
  /-- A string of sound form; its escapes may still name no character. -/
  | string (start stop : Nat) (value : Except Fault String)
  | array (start : Nat) (items : Items)
  | object (start : Nat) (members : Members)
  | broken (start : Nat) (reading skipping : Fault)

inductive Items where
  | closed (stop : Nat)
  /-- What is reported by one who wants an item, who passes over it, who wants no more. -/
  | broken (reading skipping leaving : Fault)
  /-- An item, and the offset at which one stands who leaves the array after it. -/
  | item (node : Node) (after : Nat) (rest : Items)

inductive Members where
  | closed (stop : Nat)
  | broken (reading skipping : Fault)
  /-- A member, and the offsets at which one stands who leaves the object after the name or
  after the value. -/
  | member (name : Except Fault String) (nameAfter : Nat) (value : Node) (after : Nat)
      (rest : Members)

end

def Node.start : Node → Nat
  | .null start _ | .bool start _ _ | .number start _ _ | .string start _ _
  | .array start _ | .object start _ | .broken start _ _ => start

/-! ## The value of a tree -/

mutual

/-- The value of a tree in which nothing is at fault. -/
def Node.value? : Node → Option Json
  | .null _ _ => some .null
  | .bool _ _ b => some (.bool b)
  | .number _ _ n => n.toOption.map .number
  | .string _ _ s => s.toOption.map .string
  | .array _ items => items.values?.map .array
  | .object _ members => members.values?.map .object
  | .broken _ _ _ => none

def Items.values? : Items → Option (List Json)
  | .closed _ => some []
  | .broken _ _ _ => none
  | .item node _ rest => do
    let x ← node.value?
    let xs ← rest.values?
    some (x :: xs)

def Members.values? : Members → Option (List (String × Json))
  | .closed _ => some []
  | .broken _ _ => none
  | .member name _ value _ rest => do
    let k ← name.toOption
    let x ← value.value?
    let ms ← rest.values?
    some ((k, x) :: ms)

end

/-! ## Faults in text order -/

/-- The error of a result. -/
def errorOf? {α : Type} : Except Fault α → Option Fault
  | .error f => some f
  | .ok _ => none

mutual

/-- The first fault met by one who reads the whole value, entering at most `room - 1`
levels of arrays and objects. -/
def Node.readFault? (room : Nat) : Node → Option Fault
  | .null _ _ => none
  | .bool _ _ _ => none
  | .number _ _ n => errorOf? n
  | .string _ _ s => errorOf? s
  | .array start items =>
    if room ≤ 1 then some (.here .tooDeep (start + 1)) else items.readFault? (room - 1)
  | .object start members =>
    if room ≤ 1 then some (.here .tooDeep (start + 1)) else members.readFault? (room - 1)
  | .broken _ reading _ => some reading

def Items.readFault? (room : Nat) : Items → Option Fault
  | .closed _ => none
  | .broken reading _ _ => some reading
  | .item node _ rest => node.readFault? room <|> rest.readFault? room

def Members.readFault? (room : Nat) : Members → Option Fault
  | .closed _ => none
  | .broken reading _ => some reading
  | .member name _ value _ rest =>
    errorOf? name <|> value.readFault? room <|> rest.readFault? room

end

mutual

/-- The first fault met by one who passes over the value. -/
def Node.skipFault? : Node → Option Fault
  | .null _ _ => none
  | .bool _ _ _ => none
  | .number _ _ _ => none
  | .string _ _ _ => none
  | .array _ items => items.skipFault?
  | .object _ members => members.skipFault?
  | .broken _ _ skipping => some skipping

def Items.skipFault? : Items → Option Fault
  | .closed _ => none
  | .broken _ skipping _ => some skipping
  | .item node _ rest => node.skipFault? <|> rest.skipFault?

def Members.skipFault? : Members → Option Fault
  | .closed _ => none
  | .broken _ skipping => some skipping
  | .member _ _ value _ rest => value.skipFault? <|> rest.skipFault?

end

/-! ## Trees of values -/

mutual

/-- The tree of a value that was never a text. -/
def Node.ofJson : Json → Node
  | .null => .null 0 0
  | .bool b => .bool 0 0 b
  | .number n => .number 0 0 (.ok n)
  | .string s => .string 0 0 (.ok s)
  | .array xs => .array 0 (Items.ofList xs)
  | .object ms => .object 0 (Members.ofList ms)

def Items.ofList : List Json → Items
  | [] => .closed 0
  | x :: xs => .item (Node.ofJson x) 0 (Items.ofList xs)

def Members.ofList : List (String × Json) → Members
  | [] => .closed 0
  | m :: ms => .member (.ok m.1) 0 (Node.ofJson m.2) 0 (Members.ofList ms)

end

/-- A whole text: its value, and the fault of what follows it. -/
structure Document where
  root : Node
  trailing : Option Fault

end PortTunnel.Json
