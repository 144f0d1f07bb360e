import PortTunnel.Proofs.Engine
import PortTunnel.Worker.Rehearsal

/-!
# How a worker ends

A worker hands its lifecycle to an engine and concludes it when the engine is back. In every stage
in which an engine can be back the conclusion is admitted, so the worker returns what its engine
has returned and never an error of the lifecycle itself.

* `RunEnd`: what holds of a worker, by the result of its engine.
* `run_ends_closed_or_failed`: it holds of every worker that has got past its watchdog.
* `rehearse_run`: the rehearsal of a worker is such a run.
-/

namespace PortTunnel.Worker

open Machine (Environment Files Processes)

/-! ## Moments -/

/-- Of two places for an entry of a kind there is only one if the entry is the only one. -/
theorem split_unique {α : Type} {p : α → Prop} {xs ys us vs : List α} {a b : α}
    (hxs : ∀ c ∈ xs, ¬ p c) (hys : ∀ c ∈ ys, ¬ p c) (hb : p b)
    (h : xs ++ a :: ys = us ++ b :: vs) : us = xs ∧ b = a ∧ vs = ys := by
  rcases List.append_eq_append_iff.mp h with ⟨as, rfl, htail⟩ | ⟨bs, rfl, htail⟩
  · cases as with
    | nil =>
      obtain ⟨rfl, rfl⟩ := List.cons.inj htail
      exact ⟨List.append_nil xs, rfl, rfl⟩
    | cons c as =>
      obtain ⟨-, rfl⟩ := List.cons.inj htail
      exact absurd hb (hys b (by simp))
  · cases bs with
    | nil =>
      obtain ⟨rfl, rfl⟩ := List.cons.inj htail
      exact ⟨(List.append_nil us).symm, rfl, rfl⟩
    | cons c bs =>
      obtain ⟨rfl, -⟩ := List.cons.inj htail
      exact absurd hb (hxs b (by simp))

/-- The steps of a tunnel that runs: it may go on, close, or fail in between. -/
def endings : List (List Moment) := [
  [],
  [.moved .running .failed],
  [.moved .running .closing],
  [.moved .running .closing, .moved .closing .failed],
  [.moved .running .closing, .moved .closing .closed]]

/-- A step into the stage in which a tunnel runs. -/
def Starts (m : Moment) : Prop := ∃ before, m = .moved before .running

theorem not_starts_of_reached {plan : List Milestone} {m : Moment} (h : m ∈ plan.map .reached) :
    ¬ Starts m := by
  obtain ⟨_, -, rfl⟩ := List.mem_map.mp h
  rintro ⟨_, hm⟩
  cases hm

theorem not_starts_of_endings {after : List Moment} (h : after ∈ endings) {m : Moment}
    (hm : m ∈ after) : ¬ Starts m := by
  rintro ⟨before, rfl⟩
  simp only [endings, List.mem_cons, List.not_mem_nil, or_false] at h
  rcases h with rfl | rfl | rfl | rfl | rfl <;> simp at hm

/-! ## Conclusions -/

/-- What holds of a worker, by the course of its engine. -/
structure RunEnd {a : Assignment} (course : Course a)
    (worker : Progress × Option (Except Error Unit)) : Prop where
  /-- A worker returns what its engine returns, once that does. -/
  returned : worker.2 = (course.run ready).2
  closed : worker.2 = some (.ok ()) → worker.1.lifecycle.stage = .closed
  failed : ∀ e, worker.2 = some (.error e) → worker.1.lifecycle.stage = .failed
  /-- No step of the lifecycle is refused. -/
  valid : ∀ text, worker.2 ≠ some (.error (.invalidState text))
  /-- The tunnel comes to run from where the launch has left it, after all that its engine has to
  reach and nothing else, and not a second time. -/
  prepared : ∀ before stage after, worker.1.moments = before ++ .moved stage .running :: after →
    before = a.kind.milestones.map .reached ∧ stage = .ready ∧ after ∈ endings
  /-- A tunnel that never runs has failed from where the launch has left it, for some milestone was
  not reached. -/
  early : (∀ stage, .moved stage .running ∉ worker.1.moments) →
    ∃ done m rest e, a.kind.milestones = done ++ m :: rest ∧
      worker = (⟨⟨.failed⟩, done.map .reached ++ [.moved .ready .failed]⟩, some (.error e))

variable {a : Assignment} {course : Course a}

theorem invalid_not_engines {e : Error} (h : e.isEngines) (text : String) :
    e ≠ .invalidState text := by
  rintro rfl
  cases h

/-- A worker whose engine did not come to run its tunnel. -/
theorem runEnd_of_failed {done rest : List Milestone} {m : Milestone} {e : Error}
    (hplan : a.kind.milestones = done ++ m :: rest) (he : e.isEngines)
    (hrun : (course.run ready).2 = some (.error e)) :
    RunEnd course
      (⟨⟨.failed⟩, done.map .reached ++ [.moved .ready .failed]⟩, some (.error e)) where
  returned := hrun.symm
  closed h := nomatch h
  failed _ _ := rfl
  valid text h := invalid_not_engines he text (Except.error.inj (Option.some.inj h))
  prepared before stage after h := by
    have hmem : .moved stage .running ∈ done.map Moment.reached ++ [.moved .ready .failed] := by
      rw [show done.map Moment.reached ++ [.moved .ready .failed] = _ from h]
      simp
    simp at hmem
  early _ := ⟨done, m, rest, e, hplan, rfl⟩

/-- A worker whose tunnel came to run. -/
theorem runEnd_of_running {l : Lifecycle} {after : List Moment}
    {result : Option (Except Error Unit)} (hafter : after ∈ endings)
    (hrun : (course.run ready).2 = result) (hclosed : result = some (.ok ()) → l.stage = .closed)
    (hfailed : ∀ e, result = some (.error e) → l.stage = .failed ∧ e.isEngines) :
    RunEnd course
      (⟨l, a.kind.milestones.map .reached ++ .moved .ready .running :: after⟩, result) where
  returned := hrun.symm
  closed := hclosed
  failed e h := (hfailed e h).1
  valid text h := invalid_not_engines (hfailed _ h).2 text rfl
  prepared before stage rest h := by
    obtain ⟨rfl, hstage, rfl⟩ := split_unique (fun _ => not_starts_of_reached)
      (fun _ => not_starts_of_endings hafter) ⟨stage, rfl⟩ h
    cases hstage
    exact ⟨rfl, rfl, hafter⟩
  early h := absurd (List.mem_append_right _ List.mem_cons_self) (h .ready)

theorem fail_append {l : Lifecycle} {base path : List Moment} (h : l.stage.isTerminal = false) :
    Progress.fail ⟨l, base ++ path⟩ = ⟨⟨.failed⟩, base ++ (path ++ [.moved l.stage .failed])⟩ := by
  obtain ⟨stage⟩ := l
  cases stage with
  | closed => cases h
  | failed => cases h
  | _ =>
    rw [← List.append_assoc]
    rfl

/-- A tunnel that has begun to close is closed without any refusal. -/
theorem close_append {base path : List Moment} :
    (Progress.beginClose ⟨⟨.closing⟩, base ++ path⟩).transition .closed =
      (⟨⟨.closed⟩, base ++ (path ++ [.moved .closing .closed])⟩, .ok ()) := by
  rw [← List.append_assoc]
  rfl

theorem engage_of_error {p : Progress} {e : Error} (h : course.run ready = (p, some (.error e))) :
    engage course = (p.fail, some (.error e)) := by
  rw [engage, h]
  rfl

theorem runEnd_engage (course : Course a) : RunEnd course (engage course) := by
  have hran := course.ran
  generalize hengine : course.run ready = engine at hran
  have hrun : (course.run ready).2 = engine.2 := by rw [hengine]
  cases hran with
  | failed hplan he =>
    rw [engage_of_error hengine]
    exact runEnd_of_failed hplan he hrun
  | running hresult =>
    rcases hresult with rfl | ⟨e, rfl, he⟩
    · rw [engage, hengine]
      exact runEnd_of_running (by decide) hrun nofun nofun
    · rw [engage_of_error hengine, fail_append rfl]
      exact runEnd_of_running (by decide) hrun nofun fun _ h => ⟨rfl, by cases h; exact he⟩
  | @closing result hresult =>
    cases result with
    | none =>
      rw [engage, hengine]
      exact runEnd_of_running (by decide) hrun nofun nofun
    | some result =>
      cases result with
      | ok _ =>
        rw [engage, hengine]
        dsimp only [conclude]
        rw [close_append]
        exact runEnd_of_running (by decide) hrun (fun _ => rfl) nofun
      | error e =>
        have he : e.isEngines := hresult e rfl
        rw [engage_of_error hengine, fail_append rfl]
        exact runEnd_of_running (by decide) hrun nofun fun _ h => ⟨rfl, by cases h; exact he⟩

theorem run_of_spawned {ps : Processes} {self : Nat} {launch : Launch} {b : Watchdog.Binding}
    (h : (watchdog launch self).spawn ps = .ok b) (course : Course launch.assignment) :
    run ps self launch course = engage course := by
  rw [run, h]

theorem run_ends_closed_or_failed {ps : Processes} {self : Nat} {launch : Launch}
    {b : Watchdog.Binding} (h : (watchdog launch self).spawn ps = .ok b) (course : Course launch.assignment) :
    RunEnd course (run ps self launch course) := by
  rw [run_of_spawned h]
  exact runEnd_engage course

/-- The worker of a service, for a process that is still there. -/
def webWorker : Launch :=
  ⟨.cluster, .cluster ⟨⟨"127.0.0.1", 18080, "default", "web", 80, {}⟩, "web-0"⟩, 1⟩

/-- The pod goes away while the second connection is open, but the worker was told to end before. -/
def busy : Course webWorker.assignment :=
  .cluster ⟨.ok (), .ok ()⟩
    [.accepted, .asked, .accepted, .ended 0, .shutdown, .met 1 (.refused .missing), .noticed,
      .expired]

theorem run_ends_closed_or_failed_busy :
    RunEnd busy (run { table := [⟨1, .running false⟩] } 7 webWorker busy) ∧
      (run { table := [⟨1, .running false⟩] } 7 webWorker busy).2 = some (.ok ()) := by
  have hspawned : (watchdog webWorker 7).spawn { table := [⟨1, .running false⟩] } = .ok ⟨1, 7⟩ :=
    rfl
  exact ⟨run_ends_closed_or_failed hspawned busy, rfl⟩

/-! ## Rehearsals -/

/-- What a rehearsal shows of a worker is what a run of it returns. -/
theorem rehearse_run (s : Surroundings) (files : Files) (env : Environment) (ps : Processes)
    (self : Nat) (shutdown : Session.Shutdown) (launch : Launch) :
    (rehearse s files env ps self shutdown launch).result =
      (run ps self launch (courseOf s files env ps.guarded shutdown launch.assignment)).2 := by
  rw [rehearse]
  dsimp only
  split
  · split <;> rfl
  · rfl

end PortTunnel.Worker
