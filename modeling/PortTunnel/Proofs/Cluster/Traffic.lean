import Mathlib.Data.List.Induction
import PortTunnel.Cluster.Traffic
import PortTunnel.Proofs.Event
import PortTunnel.Proofs.Forward.Run

/-!
# What a cluster tunnel survives

A tunnel to a pod goes on as long as the pod may still serve. What goes wrong with one connection
is the matter of that connection, unless the look at the pod that follows a refused port-forward
shows that it is gone for good; then the tunnel ends with what was seen first.

* `Lookup.Gone`: the looks at a pod that end a tunnel; `Lookup.verdict_eq_some`.
* `Turn.Harmless`: the turns that do not, whatever they mean for their connection.
* `Traffic.Moved`: all that an event can do; `Traffic.moved_step`.
* `Traffic.TrafficOutcome`: what holds of the tasks and the loop, whatever has happened to them.
* `Traffic.run_trafficOutcome`: it holds after all events, in any order.
-/

namespace PortTunnel.Cluster

open Forward (Loop)

/-! ## Looks at a pod -/

namespace Lookup

/-- A look that shows that a pod will not serve again, with the error that says so. -/
inductive Gone (name : String) : Lookup → Error → Prop where
  | unreachable (reason : String) :
    Gone name (.unreachable reason) (.engine s!"cannot reach the API server: {reason}")
  | missing : Gone name .missing (.engine s!"pod {name} no longer exists")
  | terminating {pod : Pod} (hterminating : pod.terminating) :
    Gone name (.found pod) (.engine s!"pod {name} is terminating")
  | stopped {pod : Pod} {phase : String} (hterminating : pod.terminating = false)
      (hphase : pod.phase = some phase) (hover : phase = "Succeeded" ∨ phase = "Failed") :
    Gone name (.found pod) (.engine s!"pod {name} has stopped ({phase})")

theorem isOver_iff (phase : String) : isOver phase ↔ phase = "Succeeded" ∨ phase = "Failed" := by
  simp [isOver]

theorem verdict_eq_some {name : String} {lookup : Lookup} {e : Error} :
    lookup.verdict name = some e ↔ Gone name lookup e := by
  constructor
  · intro h
    cases lookup with
    | unreachable reason =>
      cases h
      exact .unreachable reason
    | missing =>
      cases h
      exact .missing
    | found pod =>
      rw [verdict] at h
      split at h
      next hterminating =>
        cases h
        exact .terminating hterminating
      next hterminating =>
        split at h
        next phase hphase =>
          split at h
          next hover =>
            cases h
            exact .stopped (by simpa using hterminating) hphase ((isOver_iff phase).mp hover)
          next => cases h
        next => cases h
  · intro h
    cases h with
    | unreachable reason => rfl
    | missing => rfl
    | terminating hterminating => rw [verdict, if_pos hterminating]
    | @stopped pod phase hterminating hphase hover =>
      rw [verdict, if_neg (by simp [hterminating]), hphase]
      dsimp only
      rw [if_pos ((isOver_iff phase).mpr hover)]

end Lookup

namespace Engine

/-! ## Turns -/

namespace Turn

/-- A turn after which the pod may still serve. -/
inductive Harmless : Turn → Prop where
  | forwarded (stream : Bool) : Harmless (.forwarded stream)
  | refused : Harmless .refused
  | seen {pod : Pod} (hterminating : pod.terminating = false)
      (hphase : ∀ phase, pod.phase = some phase → phase ≠ "Succeeded" ∧ phase ≠ "Failed") :
    Harmless (.seen (.found pod))
  | copied (well : Bool) : Harmless (.copied well)
  | parted (well : Bool) : Harmless (.parted well)

/-- What a turn reports about the tunnel as a whole. -/
def report? (name : String) (turn : Turn) : Option Error :=
  turn.passage?.bind (Passage.report? name)

theorem report?_seen (name : String) (lookup : Lookup) :
    (Turn.seen lookup).report? name = lookup.verdict name := rfl

theorem report?_eq_some {name : String} {turn : Turn} {e : Error} :
    turn.report? name = some e ↔ ∃ lookup, turn = .seen lookup ∧ lookup.Gone name e := by
  constructor
  · intro h
    cases turn with
    | seen lookup => exact ⟨lookup, rfl, Lookup.verdict_eq_some.mp h⟩
    | forwarded stream => cases stream <;> cases h
    | copied well => cases well <;> cases h
    | refused => cases h
    | parted well => cases h
  · rintro ⟨lookup, rfl, hgone⟩
    exact Lookup.verdict_eq_some.mpr hgone

theorem Harmless.report? {name : String} {turn : Turn} (h : turn.Harmless) :
    turn.report? name = none := by
  rw [Option.eq_none_iff_forall_ne_some]
  intro e hreport
  obtain ⟨lookup, rfl, hgone⟩ := report?_eq_some.mp hreport
  cases h with
  | seen hterminating hphase =>
    cases hgone with
    | terminating h => simp [hterminating] at h
    | stopped _ hstopped hover =>
      obtain ⟨hsucceeded, hfailed⟩ := hphase _ hstopped
      exact hover.elim hsucceeded hfailed

end Turn

namespace Traffic

variable {name : String} {s t : Traffic} {e : Event} {id : Nat}

/-! ## One event -/

/-- What the loop itself takes up. -/
def Event.toForward? : Event → Option Forward.Event
  | .accepted => some .accepted
  | .acceptFailed => some .acceptFailed
  | .turned _ _ => none
  | .ended id => some (.ended id)
  | .noticed => some .noticed
  | .asked => some .asked
  | .shutdown => some .shutdown
  | .expired => some .expired

/-- A report waits if none does; otherwise it is lost. -/
def report (s : Traffic) (x : Error) : Traffic :=
  { s with loop := { s.loop with report := s.loop.report <|> some x } }

/-- All that an event can do to the loop and to the tasks. -/
inductive Moved (name : String) (s : Traffic) : Event → Traffic → Prop where
  | nothing (e : Event) : Moved name s e s
  | quiet {id : Nat} {turn : Turn} {leg : Leg} (hlive : id ∈ s.loop.live)
      (hleg : (s.leg id).next turn = some leg) (hquiet : turn.report? name = none) :
    Moved name s (.turned id turn) (s.setLeg id leg)
  | reported {id : Nat} {lookup : Lookup} {x : Error} (hlive : id ∈ s.loop.live)
      (hleg : s.leg id = .lookingUp) (hgone : lookup.Gone name x) :
    Moved name s (.turned id (.seen lookup)) ((s.report x).setLeg id .over)
  | taken {e : Event} {f : Forward.Event} {loop : Loop} (hf : e.toForward? = some f)
      (hmove : s.loop.Moves f loop) : Moved name s e { s with loop := loop }

theorem heed_turned (name : String) {s : Loop} {id : Nat} (hlive : id ∈ s.live) (turn : Turn) :
    heed name s (.turned id turn) =
      match turn.report? name with
      | some x => s.step (.reported x)
      | none => s := by
  rw [heed, Event.toEngine?, Turn.report?]
  cases turn.passage? with
  | none => rfl
  | some passage =>
    cases hreport : passage.report? name with
    | none => simp [Engine.step, hreport]
    | some x => simp [Engine.step, hreport, hlive]

theorem heed_of_forward {f : Forward.Event} (hf : e.toForward? = some f) (s : Loop) :
    heed name s e = s.step f := by
  cases e <;> cases hf <;> rfl

theorem next_seen {leg next : Leg} {lookup : Lookup} (h : leg.next (.seen lookup) = some next) :
    leg = .lookingUp ∧ next = .over := by
  cases leg <;> cases h
  exact ⟨rfl, rfl⟩

theorem step_turned {turn : Turn} {leg : Leg} (hlive : id ∈ s.loop.live)
    (hleg : (s.leg id).next turn = some leg) : step name s (.turned id turn) =
      { s with loop := heed name s.loop (.turned id turn) }.setLeg id leg := by
  simp only [step, if_pos hlive, hleg]

theorem moved_of_forward {f : Forward.Event} (hf : e.toForward? = some f) :
    Moved name s e { s with loop := heed name s.loop e } := by
  rw [heed_of_forward hf]
  rcases Loop.moves_or_same s.loop f with hmove | hsame
  · exact .taken hf hmove
  · rw [hsame]
    exact .nothing e

theorem moved_step (name : String) (s : Traffic) (e : Event) : Moved name s e (step name s e) := by
  cases e with
  | turned id turn =>
    by_cases hlive : id ∈ s.loop.live
    · cases hleg : (s.leg id).next turn with
      | none =>
        have hsame : step name s (.turned id turn) = s := by simp only [step, if_pos hlive, hleg]
        rw [hsame]
        exact .nothing _
      | some leg =>
        rw [step_turned hlive hleg, heed_turned name hlive]
        cases hreport : turn.report? name with
        | none => exact .quiet hlive hleg hreport
        | some x =>
          obtain ⟨lookup, rfl, hgone⟩ := Turn.report?_eq_some.mp hreport
          obtain ⟨hlooking, rfl⟩ := next_seen hleg
          exact .reported hlive hlooking hgone
    · have hsame : step name s (.turned id turn) = s := by simp only [step, if_neg hlive]
      rw [hsame]
      exact .nothing _
  | ended id =>
    rw [step]
    split
    · exact moved_of_forward (f := .ended id) rfl
    · exact .nothing _
  | accepted => exact moved_of_forward (f := .accepted) rfl
  | acceptFailed => exact moved_of_forward (f := .acceptFailed) rfl
  | noticed => exact moved_of_forward (f := .noticed) rfl
  | asked => exact moved_of_forward (f := .asked) rfl
  | shutdown => exact moved_of_forward (f := .shutdown) rfl
  | expired => exact moved_of_forward (f := .expired) rfl

/-! ## What a change comes from -/

/-- Whether connection `id` is open and its task as far as `leg`. -/
structure At (s : Traffic) (id : Nat) (leg : Leg) : Prop where
  live : id ∈ s.loop.live
  leg : s.leg id = leg

@[simp] theorem setLeg_loop (s : Traffic) (id : Nat) (leg : Leg) :
    (s.setLeg id leg).loop = s.loop := rfl

theorem setLeg_leg (s : Traffic) (id : Nat) (leg : Leg) (other : Nat) :
    (s.setLeg id leg).leg other = if other = id then leg else s.leg other := rfl

theorem next_lookingUp {leg : Leg} {turn : Turn} (h : leg.next turn = some .lookingUp) :
    leg = .asking ∧ turn = .refused := by
  rcases turn with (_ | _) | _ | _ | (_ | _) | _ <;> cases leg <;> cases h
  exact ⟨rfl, rfl⟩

theorem Moved.lookingUp (hmoved : Moved name s e t) (h : t.leg id = .lookingUp) :
    s.leg id = .lookingUp ∨ e = .turned id .refused ∧ s.At id .asking := by
  cases hmoved with
  | nothing => exact .inl h
  | taken => exact .inl h
  | @quiet other turn leg hlive hleg hquiet =>
    rw [setLeg_leg] at h
    split at h
    next heq =>
      subst heq h
      obtain ⟨hasking, rfl⟩ := next_lookingUp hleg
      exact .inr ⟨rfl, hlive, hasking⟩
    next => exact .inl h
  | reported =>
    rw [setLeg_leg] at h
    split at h
    next => cases h
    next => exact .inl h

theorem Moved.report (hmoved : Moved name s e t) {x : Error} (h : t.loop.report = some x) :
    s.loop.report = some x ∨ s.loop.report = none ∧ ∃ id lookup,
      e = .turned id (.seen lookup) ∧ s.At id .lookingUp ∧ lookup.Gone name x := by
  cases hmoved with
  | nothing => exact .inl h
  | quiet => exact .inl h
  | @reported id lookup y hlive hleg hgone =>
    rw [setLeg_loop, report] at h
    cases hold : s.loop.report with
    | some z =>
      rw [hold] at h
      exact .inl h
    | none =>
      rw [hold] at h
      obtain rfl : y = x := Option.some.inj h
      exact .inr ⟨rfl, id, lookup, rfl, ⟨hlive, hleg⟩, hgone⟩
  | @taken _ f loop hf hmove =>
    -- Only tasks report; the loop itself never does.
    have hquiet : f.report? = none := by cases e <;> cases hf <;> rfl
    rw [hmove.report, hquiet] at h
    exact .inl (by simpa using h)

theorem Moved.failed (hmoved : Moved name s e t) {x : Error} (h : t.loop.phase = .failed x) :
    s.loop.phase = .failed x ∨
      e = .noticed ∧ s.loop.phase = .serving ∧ s.loop.report = some x := by
  cases hmoved with
  | nothing => exact .inl h
  | quiet => exact .inl h
  | reported => exact .inl h
  | @taken _ f loop hf hmove =>
    rcases (hmove.failed_iff x).mp h with hold | ⟨rfl, hreport⟩
    · exact .inl hold
    · have he : e = .noticed := by
        cases e <;> cases hf
        rfl
      exact .inr ⟨he, hmove.serving (by simp), hreport⟩

theorem Moved.closing (hmoved : Moved name s e t) (h : t.loop.closing) :
    s.loop.closing ∨ e = .shutdown ∧ s.loop.asked := by
  cases hmoved with
  | nothing => exact .inl h
  | quiet => exact .inl h
  | reported => exact .inl h
  | @taken _ f loop hf hmove =>
    rcases hmove.closing_iff.mp h with hold | rfl
    · exact .inl hold
    · have he : e = .shutdown := by
        cases e <;> cases hf
        rfl
      exact .inr ⟨he, hmove.asked_of_shutdown⟩

theorem Moved.asked (hmoved : Moved name s e t) (h : t.loop.asked) : s.loop.asked ∨ e = .asked := by
  cases hmoved with
  | nothing => exact .inl h
  | quiet => exact .inl h
  | reported => exact .inl h
  | @taken _ f loop hf hmove =>
    rcases hmove.asked_iff.mp h with hold | rfl
    · exact .inl hold
    · refine .inr ?_
      cases e <;> cases hf
      rfl

/-- Connections to come are not open, and their tasks are about to begin. -/
def Ahead (s : Traffic) : Prop :=
  ∀ id, s.loop.handed.length ≤ id → id ∉ s.loop.live ∧ s.leg id = .asking

theorem Ahead.setLeg (hs : s.Ahead) (hlive : id ∈ s.loop.live) (leg : Leg) :
    (s.setLeg id leg).Ahead := by
  intro other hother
  obtain ⟨hnew, hasking⟩ := hs other hother
  have hne : other ≠ id := fun heq => hnew (heq ▸ hlive)
  exact ⟨hnew, (if_neg hne).trans hasking⟩

theorem Moved.ahead (hmoved : Moved name s e t) (hs : s.Ahead) : t.Ahead := by
  cases hmoved with
  | nothing => exact hs
  | quiet hlive => exact hs.setLeg hlive _
  | @reported id lookup x hlive =>
    have hreport : (s.report x).Ahead := hs
    exact hreport.setLeg hlive _
  | @taken _ f loop hf hmove =>
    intro id hid
    have hold : s.loop.handed.length ≤ id ∧ (f = .accepted → s.loop.handed.length < id) := by
      rw [hmove.handed] at hid
      split at hid
      next =>
        rw [List.length_append, List.length_singleton] at hid
        exact ⟨Nat.le_of_lt hid, fun _ => hid⟩
      next hother => exact ⟨hid, fun heq => absurd heq hother⟩
    obtain ⟨hnew, hasking⟩ := hs id hold.1
    refine ⟨fun hlive => ?_, hasking⟩
    rcases hmove.mem_live hlive with hbefore | ⟨hf, rfl⟩
    · exact hnew hbefore
    · exact Nat.lt_irrefl _ (hold.2 hf)

theorem Moved.heeded (hmoved : Moved name s e t) :
    t.loop = s.loop ∨ t.loop = heed name s.loop e := by
  cases hmoved with
  | nothing => exact .inl rfl
  | quiet => exact .inl rfl
  | @reported id lookup x hlive hleg hgone =>
    refine .inr ?_
    rw [heed_turned name hlive, Turn.report?_seen, Lookup.verdict_eq_some.mpr hgone]
    rfl
  | @taken _ f loop hf hmove =>
    refine .inr ?_
    rw [heed_of_forward hf]
    exact hmove.step_eq.symm

theorem Moved.kept (hmoved : Moved name s e t) (h : s.loop.report ≠ none) :
    t.loop.report ≠ none := by
  obtain ⟨x, hx⟩ := Option.ne_none_iff_exists'.mp h
  cases hmoved with
  | nothing => exact h
  | quiet => exact h
  | reported => simp [Traffic.report, hx]
  | taken _ hmove => simp [hmove.report, hx]

/-! ## Any events -/

theorem run_append (name : String) (s : Traffic) (before after : List Event) :
    run name s (before ++ after) = run name (run name s before) after := List.foldl_append

theorem run_concat (name : String) (s : Traffic) (before : List Event) (e : Event) :
    run name s (before ++ [e]) = step name (run name s before) e := by
  rw [run_append]
  rfl

theorem report_kept (h : s.loop.report ≠ none) (events : List Event) :
    (run name s events).loop.report ≠ none :=
  List.foldlRecOn (motive := fun u => u.loop.report ≠ none) events (step name) h
    fun u hu e _ => (moved_step name u e).kept hu

/-- What the loop has heard of is part of what has happened. -/
theorem exists_heard (name : String) (s : Traffic) (events : List Event) :
    ∃ heard, heard.Sublist (events.filterMap Event.toEngine?) ∧
      (run name s events).loop = Engine.run name s.loop heard := by
  induction events using List.reverseRecOn with
  | nil => exact ⟨[], .refl _, rfl⟩
  | append_singleton events e ih =>
    obtain ⟨heard, hheard, hrun⟩ := ih
    rw [run_concat, List.filterMap_append]
    have hsame : heard.Sublist
        (events.filterMap Event.toEngine? ++ [e].filterMap Event.toEngine?) :=
      hheard.trans (List.sublist_append_left _ _)
    rcases (moved_step name (run name s events) e).heeded with hloop | hloop
    · exact ⟨heard, hsame, hloop.trans hrun⟩
    · rw [hloop, heed]
      cases hengine : e.toEngine? with
      | none => exact ⟨heard, hsame, hrun⟩
      | some f =>
        refine ⟨heard ++ [f], ?_, ?_⟩
        · simpa [hengine] using hheard
        · rw [hrun, Engine.run, Engine.run, List.foldl_append]
          rfl

/-- A tunnel as its loop begins. It may have been asked to shut down by then. -/
def fresh (l : Lifecycle) (told : Bool) : Traffic := { loop := Loop.fresh l told none }

/-- How a tunnel is lost: a port-forward is refused, the pod is looked up, this look is the first
that shows that it is gone, and the loop still serves when it notices. -/
inductive Lost (name : String) (s : Traffic) : List Event → Error → Prop where
  | intro {refusing looking serving after : List Event} {id : Nat} {lookup : Lookup} {x : Error}
      (hasking : (run name s refusing).At id .asking)
      (hlooking : (run name s (refusing ++ .turned id .refused :: looking)).At id .lookingUp)
      (hfirst : (run name s (refusing ++ .turned id .refused :: looking)).loop.report = none)
      (hgone : lookup.Gone name x)
      (hserving : (run name s (refusing ++ .turned id .refused :: looking ++
        .turned id (.seen lookup) :: serving)).loop.phase = .serving) :
    Lost name s (refusing ++ .turned id .refused :: looking ++
      .turned id (.seen lookup) :: serving ++ .noticed :: after) x

variable {l : Lifecycle} {told : Bool} {events : List Event}

theorem lookingUp_fresh (h : (run name (fresh l told) events).leg id = .lookingUp) :
    ∃ before after, events = before ++ .turned id .refused :: after ∧
      (run name (fresh l told) before).At id .asking := by
  obtain ⟨before, e, after, rfl, hbefore, hafter⟩ :=
    exists_turn (P := fun s : Traffic => s.leg id = .lookingUp) h (fun hleg => by cases hleg)
  rcases (moved_step name _ e).lookingUp hafter with hold | ⟨rfl, hasking⟩
  · exact absurd hold hbefore
  · exact ⟨before, after, rfl, hasking⟩

theorem report_fresh {x : Error} (h : (run name (fresh l told) events).loop.report = some x) :
    ∃ before id lookup after, events = before ++ .turned id (.seen lookup) :: after ∧
      (run name (fresh l told) before).At id .lookingUp ∧
      (run name (fresh l told) before).loop.report = none ∧ lookup.Gone name x := by
  obtain ⟨before, e, after, rfl, hbefore, hafter⟩ :=
    exists_turn (P := fun s : Traffic => s.loop.report = some x) h (fun hreport => by cases hreport)
  rcases (moved_step name _ e).report hafter with hold | ⟨hnone, id, lookup, rfl, hat, hgone⟩
  · exact absurd hold hbefore
  · exact ⟨before, id, lookup, after, rfl, hat, hnone, hgone⟩

theorem lost_of_failed {x : Error} (h : (run name (fresh l told) events).loop.phase = .failed x) :
    Lost name (fresh l told) events x := by
  -- Traced back: from the failure to the report it came from, from there to the refusal.
  obtain ⟨before, e, after, rfl, hbefore, hafter⟩ :=
    exists_turn (P := fun s : Traffic => s.loop.phase = .failed x) h (fun hphase => by cases hphase)
  rcases (moved_step name _ e).failed hafter with hold | ⟨rfl, hserving, hreport⟩
  · exact absurd hold hbefore
  · obtain ⟨looked, id, lookup, serving, rfl, hlooking, hfirst, hgone⟩ := report_fresh hreport
    obtain ⟨refusing, looking, rfl, hasking⟩ := lookingUp_fresh hlooking.leg
    exact .intro hasking hlooking hfirst hgone hserving

theorem ahead_fresh (events : List Event) : (run name (fresh l told) events).Ahead :=
  List.foldlRecOn (motive := Ahead) events (step name) (fun _ _ => ⟨List.not_mem_nil, rfl⟩)
    fun s hs e _ => (moved_step name s e).ahead hs

theorem asked_fresh (h : (run name (fresh l told) events).loop.asked) :
    told ∨ .asked ∈ events := by
  by_cases htold : told
  · exact .inl htold
  · obtain ⟨before, e, after, rfl, hbefore, hafter⟩ :=
      exists_turn (P := fun s : Traffic => s.loop.asked = true) h htold
    rcases (moved_step name _ e).asked hafter with hold | rfl
    · exact absurd hold hbefore
    · exact .inr (by simp)

theorem closing_fresh (h : (run name (fresh l told) events).loop.closing) :
    ∃ before after, events = before ++ .shutdown :: after ∧ (told ∨ .asked ∈ before) := by
  have hfresh : ¬ (fresh l told).loop.closing := by rintro (hphase | hphase) <;> cases hphase
  obtain ⟨before, e, after, rfl, hbefore, hafter⟩ :=
    exists_turn (P := fun s : Traffic => s.loop.closing) h hfresh
  rcases (moved_step name _ e).closing hafter with hold | ⟨rfl, hasked⟩
  · exact absurd hold hbefore
  · exact ⟨before, after, rfl, asked_fresh hasked⟩

/-- What holds of the tasks and the loop of a tunnel after all events so far, and of what may come
next. -/
structure TrafficOutcome (name : String) (l : Lifecycle) (told : Bool) (events : List Event)
    (s : Traffic) : Prop where
  /-- The loop is one that the engine has run on a part of what has happened. -/
  heard : ∃ heard, heard.Sublist (events.filterMap Event.toEngine?) ∧
    s.loop = Engine.run name (Loop.fresh l told none) heard
  /-- A loop that still serves takes on whoever comes. -/
  accepts : s.loop.phase = .serving → (step name s .accepted).At s.loop.handed.length .asking
  /-- A task goes on to where its turn leads, whatever that is for the loop. -/
  turned : ∀ id leg turn next, s.At id leg → leg.next turn = some next →
    (step name s (.turned id turn)).leg id = next
  /-- An error is the first report that a pod is gone, after a port-forward that was refused. -/
  failed : ∀ x, s.loop.result? = some (.error x) → Lost name (fresh l told) events x
  /-- The loop is left for the first report that a pod is gone, or on a request to shut down. -/
  left : s.loop.phase ≠ .serving → (∃ x, Lost name (fresh l told) events x) ∨
    ∃ before after, events = before ++ .shutdown :: after ∧ (told ∨ .asked ∈ before)
  /-- A look that shows that the pod is gone is reported, or lost if a report waits; either way
  its task is over, and nothing else changes. -/
  reported : ∀ id lookup x, s.At id .lookingUp → lookup.Gone name x →
    step name s (.turned id (.seen lookup)) = (s.report x).setLeg id .over
  /-- A loop that still serves ends with the report that waits as soon as it notices. -/
  noticed : ∀ x, s.loop.phase = .serving → s.loop.report = some x →
    (step name s .noticed).loop.result? = some (.error x)
  /-- A report once made waits. -/
  waiting : ∀ before id lookup after x, events = before ++ .turned id (.seen lookup) :: after →
    (run name (fresh l told) before).At id .lookingUp → lookup.Gone name x →
    s.loop.report ≠ none
  /-- A task ends alone that comes to its end after a look at a pod that may still serve, without a
  stream, or with bytes carried well or badly. -/
  transient : ∀ id leg turn, s.At id leg → leg.next turn = some .over → turn.Harmless →
    step name s (.turned id turn) = s.setLeg id .over
  /-- What a task meets with, but for a pod that is gone, does not concern the loop or another
  task. -/
  harmless : ∀ id turn, turn.Harmless →
    (step name s (.turned id turn)).loop = s.loop ∧
    ∀ other, other ≠ id → (step name s (.turned id turn)).leg other = s.leg other
  /-- A connection whose task is over is no longer open; that ends no loop that serves and concerns
  no other connection. -/
  ended : ∀ id, s.At id .over →
    (s.loop.phase = .serving → (step name s (.ended id)).loop.phase = .serving) ∧
    (step name s (.ended id)).loop.live = s.loop.live.filter (· ≠ id) ∧
    (step name s (.ended id)).loop.finished = s.loop.finished ++ [id] ∧
    (step name s (.ended id)).loop.aborted = s.loop.aborted

theorem step_accepted (hahead : s.Ahead) (hserving : s.loop.phase = .serving) :
    (step name s .accepted).At s.loop.handed.length .asking := by
  have hmove : s.loop.Moves .accepted s.loop.accept := .accepted hserving
  have hstep : (step name s .accepted).loop = s.loop.accept := hmove.step_eq
  refine ⟨?_, (hahead _ (Nat.le_refl _)).2⟩
  rw [hstep, Loop.accept]
  exact List.mem_append_right _ List.mem_cons_self

theorem step_seen {lookup : Lookup} (hat : s.At id .lookingUp) :
    step name s (.turned id (.seen lookup)) =
      { s with loop := heed name s.loop (.turned id (.seen lookup)) }.setLeg id .over := by
  refine step_turned hat.live ?_
  rw [hat.leg]
  rfl

theorem step_gone {lookup : Lookup} {x : Error} (hat : s.At id .lookingUp)
    (hgone : lookup.Gone name x) :
    step name s (.turned id (.seen lookup)) = (s.report x).setLeg id .over := by
  rw [step_seen hat, heed_turned name hat.live, Turn.report?_seen,
    Lookup.verdict_eq_some.mpr hgone]
  rfl

theorem step_over {leg : Leg} {turn : Turn} (hat : s.At id leg) (hover : leg.next turn = some .over)
    (hharmless : turn.Harmless) : step name s (.turned id turn) = s.setLeg id .over := by
  rw [step_turned hat.live (hat.leg ▸ hover), heed_turned name hat.live, hharmless.report?]

theorem step_harmless {turn : Turn} (h : turn.Harmless) :
    (step name s (.turned id turn)).loop = s.loop ∧
      ∀ other, other ≠ id → (step name s (.turned id turn)).leg other = s.leg other := by
  generalize hstep : step name s (.turned id turn) = t
  have hmoved := moved_step name s (.turned id turn)
  rw [hstep] at hmoved
  cases hmoved with
  | nothing => exact ⟨rfl, fun _ _ => rfl⟩
  | quiet => exact ⟨rfl, fun other hother => if_neg hother⟩
  | reported _ _ hgone =>
    obtain ⟨x, hreport⟩ : ∃ x, Turn.report? name (.seen _) = some x :=
      ⟨_, Lookup.verdict_eq_some.mpr hgone⟩
    rw [h.report?] at hreport
    cases hreport
  | taken hf => cases hf

theorem step_noticed {x : Error} (hserving : s.loop.phase = .serving)
    (hreport : s.loop.report = some x) :
    (step name s .noticed).loop.result? = some (.error x) := by
  have hmove : s.loop.Moves .noticed (s.loop.abort (.failed x)) := .noticed hserving hreport
  have hstep : (step name s .noticed).loop = s.loop.abort (.failed x) := hmove.step_eq
  rw [hstep]
  rfl

theorem step_ended (hat : s.At id .over) :
    (s.loop.phase = .serving → (step name s (.ended id)).loop.phase = .serving) ∧
    (step name s (.ended id)).loop.live = s.loop.live.filter (· ≠ id) ∧
    (step name s (.ended id)).loop.finished = s.loop.finished ++ [id] ∧
    (step name s (.ended id)).loop.aborted = s.loop.aborted := by
  have hmove : s.loop.Moves (.ended id) (s.loop.finish id) := .ended hat.live
  have hstep : (step name s (.ended id)).loop = s.loop.finish id := by
    rw [step, if_pos hat.leg]
    exact hmove.step_eq
  rw [hstep]
  obtain ⟨hlive, hfinished⟩ := hmove.live_of_ended
  refine ⟨fun hserving => hmove.serving_iff.mpr ⟨hserving, by simp, by simp⟩, hlive, hfinished, ?_⟩
  simpa using hmove.aborted

theorem run_trafficOutcome (name : String) (l : Lifecycle) (told : Bool) (events : List Event) :
    TrafficOutcome name l told events (run name (fresh l told) events) where
  heard := exists_heard name (fresh l told) events
  accepts hserving := step_accepted (ahead_fresh events) hserving
  turned id leg turn next hat hleg := by
    rw [step_turned hat.live (hat.leg ▸ hleg)]
    exact if_pos rfl
  failed x hresult := lost_of_failed ((Loop.result?_error _ x).mp hresult)
  left hphase := by
    cases hleft : (run name (fresh l told) events).loop.phase with
    | serving => exact absurd hleft hphase
    | draining => exact .inr (closing_fresh (.inl hleft))
    | closed => exact .inr (closing_fresh (.inr hleft))
    | failed x => exact .inl ⟨x, lost_of_failed hleft⟩
  reported _ _ _ hat hgone := step_gone hat hgone
  noticed _ hserving hreport := step_noticed hserving hreport
  waiting := by
    rintro before id lookup after x rfl hat hgone
    rw [run_append]
    refine report_kept ?_ after
    rw [step_gone hat hgone, setLeg_loop, report]
    cases (run name (fresh l told) before).loop.report <;> simp
  transient _ _ _ hat hover hharmless := step_over hat hover hharmless
  harmless _ _ hharmless := step_harmless hharmless
  ended _ hat := step_ended hat

/-- One look finds the pod still pending, the next two find it gone; the first of these counts. -/
example :
    (run "web" (fresh ⟨.running⟩ false)
      [.accepted, .turned 0 .refused, .accepted, .turned 1 .refused,
        .turned 0 (.seen (.found ⟨some "web", false, some "Pending"⟩)), .ended 0, .accepted,
        .turned 2 .refused, .turned 2 (.seen .missing),
        .turned 1 (.seen (.unreachable "no answer")), .asked, .noticed, .shutdown]).loop.result? =
      some (.error (.engine "pod web no longer exists")) := by decide

end Traffic

end Engine

end PortTunnel.Cluster
