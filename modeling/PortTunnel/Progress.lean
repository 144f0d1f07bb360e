import PortTunnel.Lifecycle

/-!
# The progress of a tunnel

What has happened to a tunnel so far: the milestones that its engine has reached, and the steps
from stage to stage, in one order.

* `Progress.transition`, `Progress.beginClose`, `Progress.fail`: the operations of a lifecycle,
  on record.
* `Attempt`: how a step of an engine goes.
* `Progress.prepare`: the steps before a tunnel runs, up to the first that fails.
-/

namespace PortTunnel

/-- What an engine has to reach before its tunnel runs. -/
inductive Milestone where
  /-- There is a session to a bastion, or a client for a cluster. -/
  | connected
  /-- The listener is bound. -/
  | bound
  /-- A dial to the listener has succeeded. -/
  | tested
  /-- The program that carries a session has been started. -/
  | spawned
  deriving DecidableEq, Repr

inductive Moment where
  | reached (milestone : Milestone)
  | moved (before after : Stage)
  deriving DecidableEq, Repr

structure Progress where
  lifecycle : Lifecycle
  moments : List Moment := []
  deriving DecidableEq, Repr

/-- How a step of an engine goes. -/
abbrev Attempt := Except {e : Error // e.isEngines} Unit

/-- A step by its result, where that is of no use to what comes next. -/
def Attempt.of {α : Type} : (r : Except Error α) → Error.OnlyEngines r → Attempt
  | .ok _, _ => .ok ()
  | .error e, h => .error ⟨e, h e rfl⟩

namespace Progress

def reach (p : Progress) (m : Milestone) : Progress := { p with moments := p.moments ++ [.reached m] }

/-- Notes down the step to another stage, if there was one. -/
def follow (p : Progress) (l : Lifecycle) : Progress :=
  if l = p.lifecycle then p else ⟨l, p.moments ++ [.moved p.lifecycle.stage l.stage]⟩

def transition (p : Progress) (next : Stage) : Progress × Except Error Unit :=
  match p.lifecycle.transition next with
  | (l, result) => (p.follow l, result)

def beginClose (p : Progress) : Progress := p.follow p.lifecycle.beginClose.1

def fail (p : Progress) : Progress := p.follow p.lifecycle.fail

/-- Takes steps one after another, up to the first that fails. -/
def prepare (p : Progress) : List (Milestone × Attempt) → Progress × Except Error Unit
  | [] => (p, .ok ())
  | (m, .ok _) :: rest => (p.reach m).prepare rest
  | (_, .error e) :: _ => (p, .error e.val)

end Progress

end PortTunnel
