import PortTunnel.Schema.Recorded

/-!
# Values of members that are not there

A member of a record may be left out where null stands for none, or where its value is the one that
is taken anyway.

* `Shape.default?`: the value of a member that may be left out, by its name.
* `Fields.blank?`: the record of which every member may be left out.
* `Shape.withDefaults`: a value with every field given; `withDefaults_of_strict` says where
  nothing can be missing.
-/

namespace PortTunnel.Schema

/-- The value that a required field has where its member is not there, if it may be. -/
def Shape.blank? : (s : Shape) → Option s.Val
  | .nullable s => some (none : Option s.Val)
  | _ => none

mutual

/-- The value that an optional field of a name has where its member is not there: none for a field
that may be null, and what is declared for a few others. -/
def Shape.default? (name : String) : (s : Shape) → Option s.Val
  | .nullable s => some (none : Option s.Val)
  | .text _ => if name = "local_host" then some ("localhost" : String) else none
  | .word16 =>
    if name = "local_port" then some (0 : UInt16)
    else if name = "bastion_port" then some (22 : UInt16) else none
  | .flag => if name = "insecure" then some false else none
  | .record _ fields => if name = "access" then fields.blank? else none
  | .word32 => none
  | .choice _ _ => none
  | .any => none
  | .list _ => none
  | .table => none
  | .union _ _ _ => none

/-- The record that an empty object stands for, if it does for any. -/
def Fields.blank? : (fs : Fields) → Option fs.Val
  | .nil => some ()
  | .required _ s rest => do
    let x ← s.blank?
    let xs ← rest.blank?
    some (x, xs)
  | .optional name s rest => do
    let x ← s.default? name
    let xs ← rest.blank?
    some (some x, xs)

end

mutual

/-- A value in which every optional field that has a default is given. -/
def Shape.withDefaults : (s : Shape) → s.Val → s.Val
  | .text _, v => v
  | .flag, v => v
  | .word16, v => v
  | .word32, v => v
  | .choice _ _, v => v
  | .any, v => v
  | .table, v => v
  | .list s, (v : List s.Val) => v.map fun x => s.withDefaults x
  | .nullable s, (v : Option s.Val) => v.map fun x => s.withDefaults x
  | .record _ fields, v => fields.withDefaults v
  | .union _ _ cases, v => cases.withDefaults v

def Fields.withDefaults : (fs : Fields) → fs.Val → fs.Val
  | .nil, v => v
  | .required _ s rest, (v : s.Val × rest.Val) => (s.withDefaults v.1, rest.withDefaults v.2)
  | .optional name s rest, (v : Option s.Val × rest.Val) =>
    ((v.1 <|> s.default? name).map fun x => s.withDefaults x, rest.withDefaults v.2)

def Cases.withDefaults : (cs : Cases) → cs.Val → cs.Val
  | .nil, v => v
  | .case _ _ fields rest, (v : fields.Val ⊕ rest.Val) =>
    match v with
    | .inl x => .inl (fields.withDefaults x)
    | .inr y => .inr (rest.withDefaults y)

end

/-! ## Shapes in which nothing can be missing -/

mutual

/-- Whether a shape has no optional fields. -/
def Shape.strict : Shape → Bool
  | .list s => s.strict
  | .nullable s => s.strict
  | .record _ fields => fields.strict
  | .union _ _ cases => cases.strict
  | .text _ => true
  | .flag => true
  | .word16 => true
  | .word32 => true
  | .choice _ _ => true
  | .any => true
  | .table => true

def Fields.strict : Fields → Bool
  | .nil => true
  | .required _ s rest => s.strict && rest.strict
  | .optional _ _ _ => false

def Cases.strict : Cases → Bool
  | .nil => true
  | .case _ _ fields rest => fields.strict && rest.strict

end

mutual

theorem Shape.withDefaults_of_strict : ∀ {s : Shape}, s.strict → ∀ v : s.Val, s.withDefaults v = v
  | .text _, _, _ => rfl
  | .flag, _, _ => rfl
  | .word16, _, _ => rfl
  | .word32, _, _ => rfl
  | .choice _ _, _, _ => rfl
  | .any, _, _ => rfl
  | .table, _, _ => rfl
  | .list s, hs, (v : List s.Val) => by
    have hid : ∀ x, s.withDefaults x = x := Shape.withDefaults_of_strict hs
    have hall : v.map (fun x => s.withDefaults x) = v := by simp [hid]
    exact hall
  | .nullable s, hs, (v : Option s.Val) => by
    have hid : ∀ x, s.withDefaults x = x := Shape.withDefaults_of_strict hs
    have hall : v.map (fun x => s.withDefaults x) = v := by simp [hid]
    exact hall
  | .record _ fields, hs, v => Fields.withDefaults_of_strict hs v
  | .union _ _ cases, hs, v => Cases.withDefaults_of_strict hs v

theorem Fields.withDefaults_of_strict : ∀ {fs : Fields}, fs.strict → ∀ v : fs.Val,
    fs.withDefaults v = v
  | .nil, _, _ => rfl
  | .required _ s rest, hs, (x, xs) => by
    rw [Fields.strict, Bool.and_eq_true] at hs
    rw [Fields.withDefaults, Shape.withDefaults_of_strict hs.1, Fields.withDefaults_of_strict hs.2]
  | .optional _ _ _, hs, _ => nomatch hs

theorem Cases.withDefaults_of_strict : ∀ {cs : Cases}, cs.strict → ∀ v : cs.Val,
    cs.withDefaults v = v
  | .nil, _, _ => rfl
  | .case _ _ fields rest, hs, v => by
    rw [Cases.strict, Bool.and_eq_true] at hs
    cases v with
    | inl x => exact congrArg Sum.inl (Fields.withDefaults_of_strict hs.1 x)
    | inr y => exact congrArg Sum.inr (Cases.withDefaults_of_strict hs.2 y)

end

end PortTunnel.Schema
