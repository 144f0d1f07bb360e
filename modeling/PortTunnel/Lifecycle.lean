import PortTunnel.Error

/-!
# Lifecycle of a tunnel

The stages of a tunnel and the steps between them.

* `Stage.admits`: which stage may follow which.
* `Lifecycle.transition`, `Lifecycle.fail`, `Lifecycle.beginClose`: the operations. One
  that is not admitted leaves the lifecycle as it was.
-/

namespace PortTunnel

inductive Stage where
  | created
  | starting
  | ready
  | running
  | closing
  | closed
  | failed
  deriving DecidableEq, Repr, Inhabited

namespace Stage

def all : List Stage := [.created, .starting, .ready, .running, .closing, .closed, .failed]

def name : Stage → String
  | .created => "Created"
  | .starting => "Starting"
  | .ready => "Ready"
  | .running => "Running"
  | .closing => "Closing"
  | .closed => "Closed"
  | .failed => "Error"

def ofName? (s : String) : Option Stage := all.find? fun stage => stage.name = s

/-- Nothing follows a terminal stage. -/
def isTerminal : Stage → Bool
  | .closed | .failed => true
  | _ => false

/-- Any stage that is not terminal may fail; otherwise the stages follow each other, and
closing may begin before the tunnel runs. -/
def admits (a b : Stage) : Bool :=
  match a, b with
  | a, .failed => !a.isTerminal
  | .created, .starting => true
  | .starting, .ready => true
  | .ready, .running => true
  | .ready, .closing => true
  | .running, .closing => true
  | .closing, .closed => true
  | _, _ => false

def next (a : Stage) : List Stage := all.filter a.admits

end Stage

/-- The stage that a tunnel is in. -/
structure Lifecycle where
  stage : Stage := .created
  deriving DecidableEq, Repr, Inhabited

namespace Lifecycle

/-- The refusal of a step. -/
def refusal (a b : Stage) : Error := .invalidState s!"cannot move from {a.name} to {b.name}"

/-- The lifecycle after a step, and the refusal if there was one. -/
def transition (l : Lifecycle) (next : Stage) : Lifecycle × Except Error Unit :=
  if l.stage.admits next then (⟨next⟩, .ok ()) else (l, .error (refusal l.stage next))

/-- Fails the tunnel, unless it has ended. -/
def fail (l : Lifecycle) : Lifecycle := (l.transition .failed).1

/-- Begins to close, and says whether that was admitted. -/
def beginClose (l : Lifecycle) : Lifecycle × Bool :=
  match l.transition .closing with
  | (l, .ok _) => (l, true)
  | (l, .error _) => (l, false)

/-- How long what is still going on may take to end once closing has begun, in
milliseconds. -/
def closingLimit : Nat := 5000

end Lifecycle

end PortTunnel
