/-!
# Events

A run is a list of events, taken one after another by a step function.

* `exists_turn`: what holds after a run and did not before has come about with one of its events.
-/

namespace PortTunnel

theorem exists_turn {σ ε : Type} {step : σ → ε → σ} {P : σ → Prop} {s : σ} {events : List ε}
    (h : P (events.foldl step s)) (hs : ¬ P s) :
    ∃ before e after, events = before ++ e :: after ∧ ¬ P (before.foldl step s) ∧
      P (step (before.foldl step s) e) := by
  induction events generalizing s with
  | nil => exact absurd h hs
  | cons e events ih =>
    by_cases hstep : P (step s e)
    · exact ⟨[], e, events, rfl, hs, hstep⟩
    · obtain ⟨before, f, after, rfl, hbefore, hafter⟩ := ih h hstep
      exact ⟨e :: before, f, after, rfl, hbefore, hafter⟩

end PortTunnel
