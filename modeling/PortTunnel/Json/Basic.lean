import PortTunnel.Decimal.Shortest

/-!
# JSON values

* `Json`: a value. Members keep the order in which they were written.
* `Json.get?`, `Json.set`: the member of a name, and a value with that member replaced or
  added at the end.
* `Json.normal`: the value in which each name occurs once, with its last value.
-/

namespace PortTunnel

/-- A number is an integer as long as it was written as one and fits 64 bits; any other is
the binary64 number nearest to it, held by its bits. -/
inductive Json.Number where
  | int (value : Int)
  | real (bits : UInt64)
  deriving DecidableEq, Repr

def Json.Number.text : Json.Number → String
  | .int value => toString value
  | .real bits => Decimal.text bits

inductive Json where
  | null
  | bool (value : Bool)
  | number (value : Json.Number)
  | string (value : String)
  | array (items : List Json)
  | object (members : List (String × Json))
  deriving Repr, Inhabited

namespace Json

def nat (n : Nat) : Json := .number (.int n)

/-- A text, or null where there is none. -/
def ofText? : Option String → Json
  | some s => .string s
  | none => .null

def ofTexts (xs : List String) : Json := .array (xs.map .string)

/-! ## Members -/

/-- The first value under a name in a list of members. -/
def find? (name : String) (members : List (String × Json)) : Option Json :=
  (members.find? (·.1 = name)).map (·.2)

/-- Replaces the first value of a name, or adds the member at the end. -/
def put (name : String) (value : Json) : List (String × Json) → List (String × Json)
  | [] => [(name, value)]
  | m :: rest => if m.1 = name then (name, value) :: rest else m :: put name value rest

def get? (name : String) : Json → Option Json
  | .object members => find? name members
  | _ => none

/-- The member of a name; null where there is none. -/
def member (name : String) (j : Json) : Json := (j.get? name).getD .null

/-- An object with the member replaced or added. Anything else is left alone. -/
def set (name : String) (value : Json) : Json → Json
  | .object members => .object (put name value members)
  | j => j

def text? : Json → Option String
  | .string s => some s
  | _ => none

def bool? : Json → Option Bool
  | .bool b => some b
  | _ => none

def nat? (j : Json) : Option Nat :=
  match j with
  | .number (.int (.ofNat n)) => some n
  | _ => none

def items? : Json → Option (List Json)
  | .array xs => some xs
  | _ => none

def members? : Json → Option (List (String × Json))
  | .object ms => some ms
  | _ => none

mutual

/-- Every name once in each object, at its first place and with its last value. -/
def normal : Json → Json
  | .array xs => .array (normalItems xs)
  | .object ms => .object (normalMembers [] ms)
  | .null => .null
  | .bool b => .bool b
  | .number n => .number n
  | .string s => .string s

def normalItems : List Json → List Json
  | [] => []
  | x :: xs => normal x :: normalItems xs

/-- Adds the members one after another to those already kept. -/
def normalMembers (kept : List (String × Json)) : List (String × Json) → List (String × Json)
  | [] => kept
  | m :: ms => normalMembers (put m.1 (normal m.2) kept) ms

end

end Json

end PortTunnel
