import PortTunnel.Schema.Shape

/-!
# Nulls that stand for nothing in particular

In some documents null stands for an empty record, list or table as well, and records are
never written as arrays.

* `Shape.fill?`: such a document with all of these nulls written out; none if an array stands
  where a record should.
-/

namespace PortTunnel.Schema

mutual

def Shape.fill? : Shape → Json → Option Json
  | .record _ fields, j =>
    match j with
    | .null => some (.object [])
    | .object members =>
      (members.mapM fun m => (fields.fillMember? m.1 m.2).map fun v => (m.1, v)).map .object
    | .array _ => none
    | j => some j
  | .list s, j =>
    match j with
    | .null => some (.array [])
    | .array items => (items.mapM fun x => s.fill? x).map .array
    | j => some j
  | .table, j =>
    match j with
    | .null => some (.object [])
    | j => some j
  | .nullable s, j =>
    match j with
    | .null => some .null
    | j => s.fill? j
  | .text _, j => some j
  | .flag, j => some j
  | .word16, j => some j
  | .word32, j => some j
  | .choice _ _, j => some j
  | .any, j => some j
  | .union _ _ _, j => some j

/-- A member of a record; those that are no fields of it are left alone. -/
def Fields.fillMember? : Fields → (name : String) → Json → Option Json
  | .nil, _, j => some j
  | .required name s rest, k, j => if k = name then s.fill? j else rest.fillMember? k j
  | .optional name s rest, k, j => if k = name then s.fill? j else rest.fillMember? k j

end

end PortTunnel.Schema
