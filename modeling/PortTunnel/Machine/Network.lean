import PortTunnel.Machine.Fault

/-!
# Networks

* `Network`: a machine without a network, or one that can talk to itself only.
* `Network.resolve`: the address of a host.
* `Network.listen`, `Network.connect`: whether an address can be listened on or reached.
-/

namespace PortTunnel.Machine

/-- An address of the fourth version of the protocol. -/
structure Address where
  a : Nat
  b : Nat
  c : Nat
  d : Nat
  deriving DecidableEq, Repr

namespace Address

def loopback : Address := ⟨127, 0, 0, 1⟩

def text (x : Address) : String := s!"{x.a}.{x.b}.{x.c}.{x.d}"

/-- A number below 256 without leading zeros. -/
def octet? (s : String) : Option Nat :=
  let cs := s.toList
  if cs.isEmpty || 3 < cs.length || !cs.all Char.isDigit || (cs.head? = some '0' && 1 < cs.length) then
    none
  else
    let n := cs.foldl (fun n c => n * 10 + (c.toNat - 48)) 0
    if n < 256 then some n else none

def ofText? (s : String) : Option Address :=
  match s.splitOn "." with
  | [a, b, c, d] => do some ⟨← octet? a, ← octet? b, ← octet? c, ← octet? d⟩
  | _ => none

end Address

inductive Network where
  /-- Every address can be listened on and none can be reached. -/
  | absent
  /-- There is nothing but the machine itself. -/
  | loopback
  deriving DecidableEq, Repr

namespace Network

/-- The address of a host. The only name that is known is that of the machine. -/
def resolve (host : String) : Except Fault Address :=
  match Address.ofText? host with
  | some address => .ok address
  | none =>
    if host = "localhost" then .ok .loopback
    else if host.toList.contains '\x00' then .error .nulInPath
    else .error .unknownHost

/-- The address of a listener. -/
def listen (n : Network) (host : String) : Except Fault Address := do
  let address ← resolve host
  match n with
  | .absent => .ok address
  | .loopback => if address = .loopback then .ok address else .error .addressUnavailable

/-- A connection to an address, where `open?` says which ports are listened on. -/
def connect (n : Network) (isOpen : UInt16 → Bool) (host : String) (port : UInt16) :
    Except Fault Address := do
  let address ← resolve host
  match n with
  | .absent => .error .unreachable
  | .loopback =>
    if address ≠ .loopback then .error .unreachable
    else if isOpen port then .ok address
    else .error .refused

end Network

end PortTunnel.Machine
