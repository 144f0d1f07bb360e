import PortTunnel.Forward.Loop
import PortTunnel.Progress

/-!
# Engines that forward

An engine takes its steps first, and then runs a forwarding loop.

* `enter`: the loop of an engine that is prepared.
* `watch`: a loop under events, on the record of its stages.
* `engine`: an engine from its first step on.
-/

namespace PortTunnel.Forward

/-- The loop of an engine, once all that it needs was prepared; the engine counts as running
from here on. -/
def enter (prepared : Except Error Unit) (l : Lifecycle) : Except Error Loop := do
  prepared
  match l.transition .running with
  | (l, .ok _) => .ok { lifecycle := l }
  | (_, .error e) => .error e

/-- A loop under events, where `step` says what each of them does to it. -/
def watch {ε : Type} (step : Loop → ε → Loop) (p : Progress) (s : Loop) : List ε → Progress × Loop
  | [] => (p, s)
  | e :: es => watch step (p.follow (step s e).lifecycle) (step s e) es

/-- An engine whose steps go in a certain way, and whose loop meets with events; its result if it
comes to an end. -/
def engine {ε : Type} (step : Loop → ε → Loop) (steps : List (Milestone × Attempt))
    (events : List ε) (p : Progress) : Progress × Option (Except Error Unit) :=
  match p.prepare steps with
  | (p, prepared) =>
    match enter prepared p.lifecycle with
    | .error e => (p, some (.error e))
    | .ok s =>
      match watch step (p.follow s.lifecycle) s events with
      | (p, s) => (p, s.result?)

end PortTunnel.Forward
