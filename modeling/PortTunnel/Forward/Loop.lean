import PortTunnel.Lifecycle

/-!
# The forwarding loop

A loop accepts connections and hands each of them to a task of its own, until it is told to
shut down or the remote side is gone for good. Where several things are ready at once, any
of them may be taken first, so a run is a list of events in the order in which they are
taken.

* `Event`: what may happen next.
* `Loop.step`, `Loop.run`: the loop after one event and after all of them. An event that
  cannot happen in a phase changes nothing.
* `Loop.result?`: what the loop has returned, once it has.
-/

namespace PortTunnel.Forward

inductive Event where
  | accepted
  | acceptFailed
  /-- The task of a connection is over, well or not. -/
  | ended (id : Nat)
  /-- The remote side is reported to be gone. The first report waits, later ones are lost. -/
  | reported (e : Error)
  /-- The loop takes the report that waits. -/
  | noticed
  /-- The loop is told to shut down, or nobody is left who could tell it. This holds on. -/
  | asked
  /-- The loop sees that it was asked to shut down. -/
  | shutdown
  /-- The time for open connections is over. -/
  | expired
  deriving DecidableEq, Repr

inductive Phase where
  | serving
  /-- Nothing is accepted any more; open connections may still end. -/
  | draining
  | closed
  | failed (e : Error)
  deriving DecidableEq, Repr

/-- Connections are numbered in the order in which they were handed to their tasks. -/
structure Loop where
  lifecycle : Lifecycle
  phase : Phase := .serving
  handed : List Nat := []
  live : List Nat := []
  finished : List Nat := []
  aborted : List Nat := []
  report : Option Error := none
  /-- Whether the loop is to shut down. -/
  asked : Bool := false
  deriving DecidableEq, Repr

namespace Loop

/-- Hands a new connection to its task. -/
def accept (s : Loop) : Loop :=
  { s with handed := s.handed ++ [s.handed.length], live := s.live ++ [s.handed.length] }

/-- Aborts what is still open. -/
def abort (s : Loop) (phase : Phase) : Loop :=
  { s with phase := phase, live := [], aborted := s.aborted ++ s.live }

/-- A loop that only waits for open connections is over with the last of them. -/
def settle (s : Loop) : Loop :=
  if s.phase = .draining ∧ s.live = [] then { s with phase := .closed } else s

def finish (s : Loop) (id : Nat) : Loop :=
  if id ∈ s.live then
    { s with live := s.live.filter (· ≠ id), finished := s.finished ++ [id] }.settle
  else s

/-- Begins to close. -/
def close (s : Loop) : Loop :=
  { s with lifecycle := s.lifecycle.beginClose.1, phase := .draining }.settle

def step (s : Loop) : Event → Loop
  | .accepted => if s.phase = .serving then s.accept else s
  | .acceptFailed => s
  | .ended id => s.finish id
  | .reported e => { s with report := s.report <|> some e }
  | .noticed =>
    match s.phase, s.report with
    | .serving, some e => s.abort (.failed e)
    | _, _ => s
  | .asked => { s with asked := true }
  | .shutdown => if s.phase = .serving ∧ s.asked then s.close else s
  | .expired => if s.phase = .draining then s.abort .closed else s

def run (s : Loop) (events : List Event) : Loop := events.foldl step s

def result? (s : Loop) : Option (Except Error Unit) :=
  match s.phase with
  | .closed => some (.ok ())
  | .failed e => some (.error e)
  | _ => none

@[simp] theorem run_nil (s : Loop) : s.run [] = s := rfl

@[simp] theorem run_cons (s : Loop) (e : Event) (es : List Event) :
    s.run (e :: es) = (s.step e).run es := rfl

end Loop

end PortTunnel.Forward
