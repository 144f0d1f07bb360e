import PortTunnel.Lifecycle

/-!
# A lifecycle in several hands

Front end, worker and engine hold one lifecycle together: each has the address of the cell that it
is in, and a clone is one more holder of the same address.

* `Lifecycle.apply`: an operation, and what the one who asked for it is told.
* `Lifecycle.Shared`: cells, and who holds which.
* `Lifecycle.Shared.run`: clones and calls in any order, with the calls on record.
-/

namespace PortTunnel.Lifecycle

inductive Operation where
  | transition (next : Stage)
  | fail
  | beginClose
  deriving DecidableEq, Repr

/-- What an operation tells the one who asked for it. -/
inductive Answer where
  | result (r : Except Error Unit)
  | silence
  | begun (admitted : Bool)

def apply (l : Lifecycle) : Operation → Lifecycle × Answer
  | .transition next => ((l.transition next).1, .result (l.transition next).2)
  | .fail => (l.fail, .silence)
  | .beginClose => (l.beginClose.1, .begun l.beginClose.2)

/-- Lifecycles by address, and the address that each holder has. -/
structure Shared where
  cells : List Lifecycle
  holders : List Nat

/-- A call on record: the stages before and after it, as its holder sees them. -/
structure Call where
  holder : Nat
  operation : Operation
  before : Stage
  answer : Answer
  after : Stage

inductive Event where
  /-- A holder lets another one hold what it holds. -/
  | clone (holder : Nat)
  | call (holder : Nat) (operation : Operation)
  deriving DecidableEq, Repr

namespace Shared

/-- A new lifecycle has one holder. -/
def start (l : Lifecycle) : Shared := ⟨[l], [0]⟩

def lifecycle? (s : Shared) (holder : Nat) : Option Lifecycle :=
  s.holders[holder]?.bind fun address => s.cells[address]?

/-- The stage that a holder sees. -/
def observe (s : Shared) (holder : Nat) : Option Stage := (s.lifecycle? holder).map (·.stage)

def clone (s : Shared) (holder : Nat) : Shared :=
  match s.holders[holder]? with
  | some address => { s with holders := s.holders ++ [address] }
  | none => s

/-- An operation is one undivided step on the cell of its holder. -/
def call (s : Shared) (holder : Nat) (operation : Operation) : Shared × Option Call :=
  match s.holders[holder]? with
  | none => (s, none)
  | some address =>
    match s.cells[address]? with
    | none => (s, none)
    | some l =>
      let (after, answer) := l.apply operation
      ({ s with cells := s.cells.set address after },
        some ⟨holder, operation, l.stage, answer, after.stage⟩)

/-- The events one after another, and the calls among them. One of a holder that does not exist
does nothing. -/
def run (s : Shared) : List Event → Shared × List Call
  | [] => (s, [])
  | .clone holder :: events => (s.clone holder).run events
  | .call holder operation :: events =>
    let (next, call?) := s.call holder operation
    let (last, calls) := next.run events
    (last, call?.toList ++ calls)

end Shared

end PortTunnel.Lifecycle
