import PortTunnel.Proofs.Forward.Step
import PortTunnel.Worker

/-!
# How far an engine comes

An engine takes the steps of its kind, moves its tunnel on from where the launch has left it, and
hands it back running, closing or as it was. Which of these it is, and what the engine returns,
follows from one invariant of the forwarding loop.

* `Kind.milestones`: what an engine has to reach before its tunnel runs.
* `Progress.prepare_cases`: the steps of an engine, up to the first that fails.
* `Forward.Kept`: what every event keeps of a loop and of its record.
* `Ran`: how far an engine has come, and with which result.
* `Course.ran`: every engine has, whatever it meets with.
-/

namespace PortTunnel

/-- What an engine has to reach before its tunnel runs. -/
def Kind.milestones : Kind → List Milestone
  | .ssh => [.connected, .bound, .tested]
  | .session => [.spawned]
  | .cluster => [.connected, .bound]

/-! ## Steps -/

namespace Progress

theorem follow_self (p : Progress) : p.follow p.lifecycle = p := if_pos rfl

/-- Either all milestones were reached, or some of them, and then a step has failed. -/
theorem prepare_cases (p : Progress) (steps : List (Milestone × Attempt)) :
    p.prepare steps = (⟨p.lifecycle, p.moments ++ (steps.map (·.1)).map .reached⟩, .ok ()) ∨
      ∃ done m rest e, steps.map (·.1) = done ++ m :: rest ∧ e.isEngines ∧
        p.prepare steps = (⟨p.lifecycle, p.moments ++ done.map .reached⟩, .error e) := by
  induction steps generalizing p with
  | nil =>
    refine .inl ?_
    rw [List.map_nil, List.map_nil, List.append_nil]
    rfl
  | cons step steps ih =>
    obtain ⟨m, attempt⟩ := step
    cases attempt with
    | error e =>
      refine .inr ⟨[], m, steps.map (·.1), e.val, rfl, e.property, ?_⟩
      rw [List.map_nil, List.append_nil]
      rfl
    | ok _ =>
      have hreach (ms : List Milestone) :
          (p.reach m).moments ++ ms.map .reached = p.moments ++ (m :: ms).map .reached := by
        simp [reach]
      rcases ih (p.reach m) with hall | ⟨done, last, rest, e, hsteps, he, hsome⟩
      · left
        rw [hreach] at hall
        exact hall
      · right
        rw [hreach] at hsome
        refine ⟨m :: done, last, rest, e, ?_, he, hsome⟩
        rw [List.map_cons, hsteps]
        rfl

/-- The result of preparing is that of the first step that fails. -/
theorem prepare_snd_cons (p : Progress) (m : Milestone) (attempt : Attempt)
    (rest : List (Milestone × Attempt)) :
    (p.prepare ((m, attempt) :: rest)).2 =
      (attempt.mapError (·.val) >>= fun _ => ((p.reach m).prepare rest).2) := by
  cases attempt <;> rfl

end Progress

theorem Attempt.mapError_of {α : Type} (r : Except Error α) (h : Error.OnlyEngines r) :
    Except.mapError (·.val) (Attempt.of r h) = r.map fun _ => () := by
  cases r <;> rfl

/-- The steps of an SSH engine go well exactly if there are a session and a listener for it. -/
theorem Ssh.Engine.prepare_startup (n : Machine.Network) (dialable : UInt16 → Bool)
    (files : Machine.Files) (b : Bastion) (s : Settings) (p : Progress) :
    (p.prepare (startup n dialable files b s).steps).2 =
      (prepare n dialable files b s).2.map fun _ => () := by
  simp only [startup, Startup.steps, Progress.prepare_snd_cons, Attempt.mapError_of, prepare]
  cases login n files b s with
  | mk notes session =>
    cases session with
    | error e => rfl
    | ok rules =>
      cases Forward.Listener.bind n s.localHost s.localPort with
      | error e => rfl
      | ok listener =>
        simp only [bind, Except.bind, Except.map]
        cases selfTest n dialable listener <;> rfl

/-- The steps of a cluster engine go well exactly if there are a client and a listener for it. -/
theorem Cluster.Engine.prepare_startup (n : Machine.Network)
    (connect : Access → Except Error Client) (a : Assignment)
    (h : Error.OnlyEngines (connect a.settings.access)) (p : Progress) :
    (p.prepare (startup n (connect a.settings.access) h a).steps).2 =
      (prepare n connect a).map fun _ => () := by
  simp only [startup, Startup.steps, Progress.prepare_snd_cons, Attempt.mapError_of, prepare]
  cases connect a.settings.access with
  | error e => rfl
  | ok client =>
    cases Forward.Listener.bind n a.settings.localHost a.settings.localPort <;> rfl

/-! ## The loop of an engine -/

namespace Forward

open Loop

/-- What every event keeps of a loop that runs, and of the record that began with `base`: closing
has begun exactly where the loop closes in good order, and whatever was reported is an error that
an engine meets with. -/
structure Kept (base : List Moment) (p : Progress) (s : Loop) : Prop where
  running : ¬ s.closing → s.lifecycle = ⟨.running⟩ ∧ p = ⟨⟨.running⟩, base⟩
  closing : s.closing →
    s.lifecycle = ⟨.closing⟩ ∧ p = ⟨⟨.closing⟩, base ++ [.moved .running .closing]⟩
  failed : ∀ x, s.phase = .failed x → x.isEngines
  report : ∀ x, s.report = some x → x.isEngines

variable {base : List Moment} {p : Progress} {s t : Loop}

theorem Kept.lifecycle (h : Kept base p s) : p.lifecycle = s.lifecycle := by
  by_cases hclosing : s.closing
  · rw [(h.closing hclosing).1, (h.closing hclosing).2]
  · rw [(h.running hclosing).1, (h.running hclosing).2]

theorem kept_begin : Kept base ⟨⟨.running⟩, base⟩ { lifecycle := ⟨.running⟩ } where
  running _ := ⟨rfl, rfl⟩
  closing h := by rcases h with h | h <;> cases h
  failed _ h := nomatch h
  report _ h := nomatch h

theorem Kept.move {f : Event} (h : Kept base p s) (hmove : s.Moves f t)
    (hf : ∀ x, f.report? = some x → x.isEngines) : Kept base (p.follow t.lifecycle) t := by
  have hfailed : ∀ x, t.phase = .failed x → x.isEngines := by
    intro x hx
    rcases (hmove.failed_iff x).mp hx with hold | ⟨-, hreport⟩
    · exact h.failed x hold
    · exact h.report x hreport
  have hreport : ∀ x, t.report = some x → x.isEngines := by
    intro x hx
    rw [hmove.report] at hx
    cases hold : s.report with
    | some y =>
      rw [hold] at hx
      cases hx
      exact h.report x hold
    | none =>
      rw [hold] at hx
      exact hf x hx
  by_cases hshutdown : f = .shutdown
  · -- only a loop that serves takes up the request, so closing has not begun before
    have hopen : ¬ s.closing := by
      rw [Loop.closing, hmove.serving (.inr (.inr (.inr hshutdown)))]
      simp
    obtain ⟨hs, rfl⟩ := h.running hopen
    have ht : t.lifecycle = ⟨.closing⟩ := by
      rw [hmove.lifecycle, if_pos hshutdown, hs]
      rfl
    refine ⟨fun hnot => absurd (hmove.closing_iff.mpr (.inr hshutdown)) hnot, fun _ => ?_,
      hfailed, hreport⟩
    rw [ht]
    exact ⟨rfl, rfl⟩
  · have ht : t.lifecycle = s.lifecycle := by rw [hmove.lifecycle, if_neg hshutdown]
    have hclosing : t.closing ↔ s.closing := by
      rw [hmove.closing_iff, or_iff_left hshutdown]
    rw [ht, ← h.lifecycle, Progress.follow_self]
    constructor
    · rw [hclosing, ht]
      exact h.running
    · rw [hclosing, ht]
      exact h.closing
    · exact hfailed
    · exact hreport

/-- An event of an engine is one of the loop, or none; it reports only what engines meet with. -/
def Drives {ε : Type} (step : Loop → ε → Loop) (e : ε) : Prop :=
  ∀ s, step s e = s ∨ ∃ f : Event, step s e = s.step f ∧ ∀ x, f.report? = some x → x.isEngines

theorem Kept.watch {ε : Type} {step : Loop → ε → Loop} {events : List ε} (h : Kept base p s)
    (hdrives : ∀ e ∈ events, Drives step e) :
    Kept base (watch step p s events).1 (watch step p s events).2 := by
  induction events generalizing p s with
  | nil => exact h
  | cons e es ih =>
    refine ih ?_ fun f hf => hdrives f (List.mem_cons_of_mem e hf)
    have hsame : Kept base (p.follow s.lifecycle) s := by
      rw [← h.lifecycle, Progress.follow_self]
      exact h
    rcases hdrives e List.mem_cons_self s with hnone | ⟨f, hstep, hf⟩
    · rw [hnone]
      exact hsame
    · rw [hstep]
      rcases moves_or_same s f with hmove | hnone
      · exact h.move hmove hf
      · rw [hnone]
        exact hsame

end Forward

/-! ## Engines -/

namespace Worker

theorem verdict_engines (status : Machine.ExitStatus) :
    Error.OnlyEngines (Session.Engine.verdict status) := by
  rw [Session.Engine.verdict]
  split
  · exact .ok ()
  · exact .error rfl

/-- A connection to a pod reports nothing but that the pod cannot be forwarded to. -/
theorem report_engines {name : String} {passage : Cluster.Engine.Passage} {e : Error}
    (h : passage.report? name = some e) : e.isEngines := by
  cases passage with
  | refused lookup =>
    rw [Cluster.Engine.Passage.report?] at h
    cases lookup with
    | unreachable reason =>
      cases h
      rfl
    | missing =>
      cases h
      rfl
    | found pod =>
      rw [Cluster.Lookup.verdict] at h
      split at h
      · cases h
        rfl
      · split at h
        · split at h
          · cases h
            rfl
          · cases h
        · cases h
  | noStream => cases h
  | carried well => cases h

/-- How far an engine has come with the milestones of its kind, and what it has returned, if it
has. -/
inductive Ran (plan : List Milestone) : Progress × Option (Except Error Unit) → Prop where
  /-- A step has failed, and nothing was done about the stage of the tunnel. -/
  | failed {done rest : List Milestone} {m : Milestone} {e : Error}
    (hplan : plan = done ++ m :: rest) (he : e.isEngines) :
    Ran plan (⟨⟨.ready⟩, done.map .reached⟩, some (.error e))
  /-- The tunnel runs, or did so until the engine failed. -/
  | running {result : Option (Except Error Unit)}
    (hresult : result = none ∨ ∃ e, result = some (.error e) ∧ e.isEngines) :
    Ran plan (⟨⟨.running⟩, plan.map .reached ++ [.moved .ready .running]⟩, result)
  /-- The tunnel has begun to close. -/
  | closing {result : Option (Except Error Unit)}
    (hresult : ∀ e, result = some (.error e) → e.isEngines) :
    Ran plan (⟨⟨.closing⟩, plan.map .reached ++
      [.moved .ready .running, .moved .running .closing]⟩, result)

theorem ran_of_kept {plan : List Milestone} {p : Progress} {s : Forward.Loop}
    (h : Forward.Kept (plan.map .reached ++ [.moved .ready .running]) p s) :
    Ran plan (p, s.result?) := by
  by_cases hclosing : s.closing
  · rw [(h.closing hclosing).2, List.append_assoc]
    refine .closing fun e he => ?_
    rcases hclosing with hphase | hphase <;> simp [Forward.Loop.result?, hphase] at he
  · rw [(h.running hclosing).2]
    refine .running ?_
    cases hphase : s.phase with
    | serving => exact .inl (by rw [Forward.Loop.result?, hphase])
    | draining => exact absurd (.inl hphase) hclosing
    | closed => exact absurd (.inr hphase) hclosing
    | failed e => exact .inr ⟨e, by rw [Forward.Loop.result?, hphase], h.failed e hphase⟩

theorem ran_engine {ε : Type} {step : Forward.Loop → ε → Forward.Loop}
    {steps : List (Milestone × Attempt)} {events : List ε}
    (hdrives : ∀ e ∈ events, Forward.Drives step e) :
    Ran (steps.map (·.1)) (Forward.engine step steps events ready) := by
  rcases ready.prepare_cases steps with hall | ⟨done, m, rest, e, hsteps, he, hsome⟩
  · rw [Forward.engine, hall]
    exact ran_of_kept (Forward.kept_begin.watch hdrives)
  · rw [Forward.engine, hsome]
    exact .failed hsteps he

theorem ran_session (spawned : Except Machine.Fault Session.Plugin) (schedule : Session.Schedule)
    (a : Session.Assignment) :
    Ran Kind.session.milestones
      ((Course.session spawned schedule : Course (.session a)).run ready) := by
  cases spawned with
  | error f =>
    have hplan : Kind.session.milestones = [] ++ .spawned :: [] := rfl
    exact .failed hplan rfl
  | ok plugin =>
    have hbegin : Session.Engine.begin (.ok plugin) ready a =
        (⟨⟨.running⟩, [.reached .spawned, .moved .ready .running]⟩, .ok plugin) := rfl
    cases hfirst : Session.Engine.first plugin schedule with
    | none =>
      simp only [Course.run, Session.Engine.run, hbegin, hfirst]
      exact .running (.inl rfl)
    | some signal =>
      cases signal with
      | shutdown time =>
        simp only [Course.run, Session.Engine.run, hbegin, hfirst]
        exact .closing nofun
      | ending e =>
        cases hstatus : e.status with
        | error f =>
          simp only [Course.run, Session.Engine.run, hbegin, hfirst, hstatus]
          exact .running (.inr ⟨_, rfl, rfl⟩)
        | ok status =>
          simp only [Course.run, Session.Engine.run, hbegin, hfirst, hstatus]
          exact .closing fun x hx => verdict_engines status x (Option.some.inj hx)

/-! ## All of them -/

theorem drives_ssh {s : Ssh.Settings} {e : Forward.Event}
    (h : ∀ x, e = .reported x → x = Ssh.Engine.lost s) : Forward.Drives Forward.Loop.step e := by
  refine fun _ => .inr ⟨e, rfl, fun x hx => ?_⟩
  cases e with
  | reported lost =>
    cases hx
    rw [h x rfl]
    rfl
  | _ => cases hx

theorem drives_cluster (name : String) (e : Cluster.Engine.Event) :
    Forward.Drives (Cluster.Engine.step name) e := by
  intro s
  have hsilent (f : Forward.Event) (hf : f.report? = none) : ∃ g : Forward.Event,
      s.step f = s.step g ∧ ∀ x, g.report? = some x → x.isEngines :=
    ⟨f, rfl, fun x hx => by rw [hf] at hx; cases hx⟩
  cases e with
  | met id passage =>
    rw [Cluster.Engine.step]
    split
    next x hreport =>
      split
      · refine .inr ⟨.reported x, rfl, fun y hy => ?_⟩
        cases hy
        exact report_engines hreport
      · exact .inl rfl
    next => exact .inl rfl
  | accepted => exact .inr (hsilent .accepted rfl)
  | acceptFailed => exact .inr (hsilent .acceptFailed rfl)
  | ended id => exact .inr (hsilent (.ended id) rfl)
  | noticed => exact .inr (hsilent .noticed rfl)
  | asked => exact .inr (hsilent .asked rfl)
  | shutdown => exact .inr (hsilent .shutdown rfl)
  | expired => exact .inr (hsilent .expired rfl)

/-- Every engine comes as far as one of its kind can, whatever it meets with. -/
theorem Course.ran {a : Assignment} (course : Course a) :
    Ran a.kind.milestones (course.run ready) := by
  cases course with
  | ssh startup events heard =>
    show Ran (startup.steps.map (·.1)) _
    exact ran_engine fun e he => drives_ssh fun x hx => heard x (hx ▸ he)
  | session spawned schedule => exact ran_session spawned schedule _
  | cluster startup events =>
    show Ran (startup.steps.map (·.1)) _
    exact ran_engine fun e _ => drives_cluster _ e

end Worker

end PortTunnel
