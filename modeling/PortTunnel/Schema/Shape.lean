import PortTunnel.Json.Basic
import PortTunnel.Text.Table

/-!
# Shapes of records

A shape says how a type is written as JSON: which members a record has and in which
order, which of them may be left out, how the cases of a union are told apart.

* `Shape`, `Fields`, `Cases`: shapes, the fields of a record, the cases of a union.
* `Shape.Val`: the values of a shape, as nested pairs and sums of plain data.
* `Shape.write`: the JSON form of a value.
-/

namespace PortTunnel.Schema

open Text (TextTable)

mutual

inductive Shape where
  /-- A text, and how it is called where something else is found. -/
  | text (expected : String)
  | flag
  | word16
  | word32
  /-- One of a few words. -/
  | choice (title : String) (words : List String)
  /-- Any value. -/
  | any
  | list (shape : Shape)
  | table
  /-- A value or null. A record may also leave the member out. -/
  | nullable (shape : Shape)
  /-- An object with these members, or an array of them in order. -/
  | record (title : String) (fields : Fields)
  /-- A record whose fields depend on the text of the member `tag`, which is written
  first. -/
  | union (title tag : String) (cases : Cases)

inductive Fields where
  | nil
  | required (name : String) (shape : Shape) (rest : Fields)
  /-- A field that may be left out; it is then not written either. -/
  | optional (name : String) (shape : Shape) (rest : Fields)

inductive Cases where
  | nil
  | case (label title : String) (fields : Fields) (rest : Cases)

end

mutual

def Shape.Val : Shape → Type
  | .text _ => String
  | .flag => Bool
  | .word16 => UInt16
  | .word32 => UInt32
  | .choice _ _ => String
  | .any => Json
  | .list s => List s.Val
  | .table => TextTable
  | .nullable s => Option s.Val
  | .record _ fields => fields.Val
  | .union _ _ cases => cases.Val

def Fields.Val : Fields → Type
  | .nil => Unit
  | .required _ s rest => s.Val × rest.Val
  | .optional _ s rest => Option s.Val × rest.Val

def Cases.Val : Cases → Type
  | .nil => Empty
  | .case _ _ fields rest => fields.Val ⊕ rest.Val

end

def Fields.length : Fields → Nat
  | .nil => 0
  | .required _ _ rest => rest.length + 1
  | .optional _ _ rest => rest.length + 1

def Fields.names : Fields → List String
  | .nil => []
  | .required name _ rest => name :: rest.names
  | .optional name _ rest => name :: rest.names

def Cases.labels : Cases → List String
  | .nil => []
  | .case label _ _ rest => label :: rest.labels

/-! ## Writing -/

mutual

def Shape.write : (s : Shape) → s.Val → Json
  | .text _, (v : String) => .string v
  | .flag, (v : Bool) => .bool v
  | .word16, (v : UInt16) => .nat v.toNat
  | .word32, (v : UInt32) => .nat v.toNat
  | .choice _ _, (v : String) => .string v
  | .any, (v : Json) => v
  | .list s, (v : List s.Val) => .array (v.map fun x => s.write x)
  | .table, (v : TextTable) => .object (v.entries.map fun e => (e.1, .string e.2))
  | .nullable s, (v : Option s.Val) =>
    match v with
    | none => .null
    | some x => s.write x
  | .record _ fields, v => .object (fields.write v)
  | .union _ tag cases, v => .object (cases.write tag v)

def Fields.write : (fs : Fields) → fs.Val → List (String × Json)
  | .nil, _ => []
  | .required name s rest, (v : s.Val × rest.Val) => (name, s.write v.1) :: rest.write v.2
  | .optional name s rest, (v : Option s.Val × rest.Val) =>
    match v with
    | (some x, vs) => (name, s.write x) :: rest.write vs
    | (none, vs) => rest.write vs

def Cases.write (tag : String) : (cs : Cases) → cs.Val → List (String × Json)
  | .nil, _ => []
  | .case label _ fields rest, (v : fields.Val ⊕ rest.Val) =>
    match v with
    | .inl x => (tag, .string label) :: fields.write x
    | .inr y => rest.write tag y

end

end PortTunnel.Schema
