import PortTunnel.Cluster.Engine

/-!
# Traffic of a cluster tunnel

The tasks of a tunnel to a pod next to its forwarding loop. Each task carries one connection; what
it meets with comes at any time and in any order with what happens to the others and to the loop.

* `Engine.Leg`: how far a task has come; `Leg.next`: what may come next.
* `Engine.Turn`: what a task meets with next; `Turn.passage?` what that comes to for the tunnel.
* `Engine.Traffic.step`, `Engine.Traffic.run`: the tasks and the loop under events. An event that
  cannot happen changes nothing.
-/

namespace PortTunnel.Cluster.Engine

open Forward (Loop)

/-- How far the task of a connection has come. -/
inductive Leg where
  /-- It has asked for a port-forward. -/
  | asking
  /-- There is none, and the pod is being looked up. -/
  | lookingUp
  /-- Bytes are carried. -/
  | carrying
  /-- Both sides are done, and the port-forward is being ended. -/
  | parting
  /-- There is nothing left to do. -/
  | over
  deriving DecidableEq, Repr

inductive Turn where
  /-- There is a port-forward, with or without a stream for the port. -/
  | forwarded (stream : Bool)
  | refused
  | seen (lookup : Lookup)
  | copied (well : Bool)
  | parted (well : Bool)
  deriving DecidableEq, Repr

/-- Where a turn leads to. Whatever fails, the task is over at once or after the look-up. -/
def Leg.next : Leg → Turn → Option Leg
  | .asking, .forwarded true => some .carrying
  | .asking, .forwarded false => some .over
  | .asking, .refused => some .lookingUp
  | .lookingUp, .seen _ => some .over
  | .carrying, .copied true => some .parting
  | .carrying, .copied false => some .over
  | .parting, .parted _ => some .over
  | _, _ => none

/-- The passage that a turn completes. -/
def Turn.passage? : Turn → Option Passage
  | .forwarded true => none
  | .forwarded false => some .noStream
  | .refused => none
  | .seen lookup => some (.refused lookup)
  | .copied true => none
  | .copied false => some (.carried false)
  | .parted well => some (.carried well)

structure Traffic where
  loop : Loop
  /-- How far the task of each connection has come; those to come count as beginning. -/
  leg : Nat → Leg := fun _ => .asking

namespace Traffic

inductive Event where
  | accepted
  | acceptFailed
  /-- The task of an open connection meets with something. -/
  | turned (id : Nat) (turn : Turn)
  /-- The loop sees that a task is over. -/
  | ended (id : Nat)
  | noticed
  | asked
  | shutdown
  | expired
  deriving DecidableEq, Repr

/-- What an event is to the loop. -/
def Event.toEngine? : Event → Option Engine.Event
  | .accepted => some .accepted
  | .acceptFailed => some .acceptFailed
  | .turned id turn => turn.passage?.map (.met id)
  | .ended id => some (.ended id)
  | .noticed => some .noticed
  | .asked => some .asked
  | .shutdown => some .shutdown
  | .expired => some .expired

/-- The loop after an event. -/
def heed (name : String) (s : Loop) (e : Event) : Loop :=
  match e.toEngine? with
  | some heard => Engine.step name s heard
  | none => s

def setLeg (s : Traffic) (id : Nat) (leg : Leg) : Traffic :=
  { s with leg := fun other => if other = id then leg else s.leg other }

def step (name : String) (s : Traffic) : Event → Traffic
  | .turned id turn =>
    match if id ∈ s.loop.live then (s.leg id).next turn else none with
    | some leg => { s with loop := heed name s.loop (.turned id turn) }.setLeg id leg
    | none => s
  | .ended id => if s.leg id = .over then { s with loop := heed name s.loop (.ended id) } else s
  | e => { s with loop := heed name s.loop e }

def run (name : String) (s : Traffic) (events : List Event) : Traffic := events.foldl (step name) s

end Traffic

end PortTunnel.Cluster.Engine
