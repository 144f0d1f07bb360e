import PortTunnel.Proofs.Session.Supervision

/-!
# The run of a session engine as it is played

The run of an engine is found from the times of a program and of a shutdown alone. It is what the
engine and the program come to event by event if each event happens at its time, and if nothing that
can be done at once is put off.

* `Plugin.Lawful`: the programs whose end the system tells, and that react after an interrupt only.
* `Supervision.Due`: what may happen next, for a program and a schedule.
* `Supervision.Plays`: a course of events each of which is due; `Supervision.run_iff`.
* `RunEnd`: what a run has come to, in terms of the program and the schedule.
* `SupervisionOutcome`: what holds of an engine, whatever its program does;
  `run_supervisionOutcome`.
-/

namespace PortTunnel.Session

open Machine (ExitStatus Fault)

structure Plugin.Lawful (plugin : Plugin) : Prop where
  told : ∀ e, plugin.ending = some e → ∃ status, e.status = .ok status
  reacts : ∀ time e, plugin.reaction time = some e → time ≤ e.time ∧ ∃ status, e.status = .ok status

variable {plugin : Plugin} {s : Schedule} {p : Progress} {a : Assignment}

/-! ## The run by itself -/

namespace Engine

theorem first_eq_ending {e : Ending} : first plugin s = some (.ending e) ↔
    plugin.ending = some e ∧
      ∀ time, s.shutdownAt = some time → e.time < time ∨ e.time = time ∧ s.endingFirst = true := by
  rw [first]
  cases plugin.ending with
  | none => cases s.shutdownAt <;> simp
  | some f =>
    cases s.shutdownAt with
    | none => simp
    | some time => grind

theorem first_eq_shutdown {time : Nat} : first plugin s = some (.shutdown time) ↔
    s.shutdownAt = some time ∧
      ∀ e, plugin.ending = some e → time ≤ e.time ∧ (e.time = time → s.endingFirst = false) := by
  rw [first]
  cases s.shutdownAt with
  | none => cases plugin.ending <;> simp
  | some t =>
    cases plugin.ending with
    | none => simp
    | some e => grind

theorem first_eq_none : first plugin s = none ↔ plugin.ending = none ∧ s.shutdownAt = none := by
  rw [first]
  cases plugin.ending <;> cases s.shutdownAt <;> grind

theorem endingAfter_eq_some (hguard : s.guarded = false) {time : Nat} {e : Ending} :
    endingAfter plugin s time = some e ↔ plugin.ending = some e ∧ e.time ≤ time ∨
      (∀ f, plugin.ending = some f → time < f.time) ∧ plugin.reaction time = some e := by
  rw [endingAfter, hguard]
  cases plugin.ending with
  | none => simp
  | some f => grind

theorem stop_ended {time : Nat} {e : Ending} {status : ExitStatus} (hstatus : e.status = .ok status)
    (hafter : endingAfter plugin s time = some e) (hlimit : e.time ≤ time + s.limit) :
    stop plugin s time = .ended e := by
  simp only [stop, hafter, if_pos hlimit, fateOf, hstatus]

theorem stop_killed (hguard : s.guarded = false) {time : Nat}
    (hlate : ∀ e, endingAfter plugin s time = some e → time + s.limit < e.time) :
    stop plugin s time = .killed (time + s.limit) := by
  rw [stop]
  cases hafter : endingAfter plugin s time with
  | none => simp [kill, hguard]
  | some e => simp [kill, hguard, Nat.not_le.mpr (hlate e hafter)]

theorem begin_ready (hp : p.lifecycle = ⟨.ready⟩) :
    Engine.begin (.ok plugin) p a = ((Supervision.begun p).progress, .ok plugin) := by
  obtain ⟨l, moments⟩ := p
  cases hp
  rfl

theorem run_none (hp : p.lifecycle = ⟨.ready⟩) (hfirst : first plugin s = none) :
    Engine.run (.ok plugin) s p a = none := by
  simp only [Engine.run, begin_ready hp, hfirst]

theorem run_ending (hp : p.lifecycle = ⟨.ready⟩) {time : Nat} {status : ExitStatus}
    (hfirst : first plugin s = some (.ending ⟨time, .ok status⟩)) :
    Engine.run (.ok plugin) s p a = some
      { progress := (Supervision.begun p).progress.beginClose
        fate := .ended ⟨time, .ok status⟩
        result := verdict status } := by
  simp only [Engine.run, begin_ready hp, hfirst, fateOf]

theorem run_shutdown (hp : p.lifecycle = ⟨.ready⟩) (hguard : s.guarded = false) {time : Nat}
    (hfirst : first plugin s = some (.shutdown time)) :
    Engine.run (.ok plugin) s p a = some
      { progress := (Supervision.begun p).progress.beginClose
        interruptedAt := some time
        fate := stop plugin s time
        result := .ok () } := by
  simp [Engine.run, begin_ready hp, hfirst, hguard]

end Engine

theorem Plugin.Lawful.after (hplugin : plugin.Lawful) (hguard : s.guarded = false) {time : Nat}
    {e : Ending} (hafter : Engine.endingAfter plugin s time = some e)
    (hlate : ∀ f, plugin.ending = some f → time ≤ f.time) :
    time ≤ e.time ∧ ∃ status, e.status = .ok status := by
  rcases (Engine.endingAfter_eq_some hguard).mp hafter with ⟨hending, -⟩ | ⟨-, hreaction⟩
  · exact ⟨hlate e hending, hplugin.told e hending⟩
  · exact hplugin.reacts time e hreaction

theorem stop_cases (hplugin : plugin.Lawful) (hguard : s.guarded = false) {time : Nat}
    (hlate : ∀ f, plugin.ending = some f → time ≤ f.time) :
    (∃ e, Engine.endingAfter plugin s time = some e ∧ e.time ≤ time + s.limit ∧
      Engine.stop plugin s time = .ended e) ∨
    (∀ e, Engine.endingAfter plugin s time = some e → time + s.limit < e.time) ∧
      Engine.stop plugin s time = .killed (time + s.limit) := by
  by_cases hintime : ∃ e, Engine.endingAfter plugin s time = some e ∧ e.time ≤ time + s.limit
  · obtain ⟨e, hafter, hlimit⟩ := hintime
    obtain ⟨-, status, hstatus⟩ := hplugin.after hguard hafter hlate
    exact .inl ⟨e, hafter, hlimit, Engine.stop_ended hstatus hafter hlimit⟩
  · have hlater : ∀ e, Engine.endingAfter plugin s time = some e → time + s.limit < e.time :=
      fun e he => Nat.lt_of_not_le fun hle => hintime ⟨e, he, hle⟩
    exact .inr ⟨hlater, Engine.stop_killed hguard hlater⟩

/-! ## The course of events -/

namespace Supervision

variable {w t u : Supervision} {e : Event} {events : List Event}

/-- How the program ends as things stand, if it does. -/
def foreseen (plugin : Plugin) (s : Schedule) (w : Supervision) : Option Ending :=
  match w.interruptedAt with
  | none => plugin.ending
  | some time => Engine.endingAfter plugin s time

/-- What may happen next. Time only passes up to what happens next, and not before the engine has
dealt with what it can see; at one time it sees the end of the program and a request to shut down in
the order of the schedule. -/
inductive Due (plugin : Plugin) (s : Schedule) (w : Supervision) : Event → Prop where
  | passed {duration : Nat} (hlife : w.life = .running)
      (hending : ∀ e, w.foreseen plugin s = some e → w.now + duration ≤ e.time)
      (hwaiting : w.watch = .waiting →
        w.asked = false ∧ ∀ time, s.shutdownAt = some time → w.now + duration ≤ time)
      (hstopping : ∀ since, w.watch = .stopping since → w.now + duration ≤ since + s.limit) :
    Due plugin s w (.passed duration)
  | ended {status : ExitStatus} (hending : w.foreseen plugin s = some ⟨w.now, .ok status⟩) :
    Due plugin s w (.ended status)
  | asked (hshutdown : s.shutdownAt = some w.now) : Due plugin s w .asked
  | exitSeen (hfirst : s.shutdownAt = some w.now → s.endingFirst = true) : Due plugin s w .exitSeen
  | shutdownSeen (hfirst : ∀ e, plugin.ending = some e → e.time = w.now → s.endingFirst = false) :
    Due plugin s w (.shutdownSeen true)
  | reaped : Due plugin s w .reaped
  | expired (hending : ∀ e, w.foreseen plugin s = some e → e.time ≠ w.now) : Due plugin s w .expired

inductive Plays (plugin : Plugin) (s : Schedule) :
    Supervision → List Event → Supervision → Prop where
  | nil (w : Supervision) : Plays plugin s w [] w
  | cons {w t u : Supervision} {e : Event} {events : List Event} (hdue : Due plugin s w e)
      (hmove : Moves s.limit w e t) (hrest : Plays plugin s t events u) :
    Plays plugin s w (e :: events) u

theorem Plays.run_eq (h : Plays plugin s w events t) : run s.limit w events = t := by
  induction h with
  | nil w => rfl
  | cons hdue hmove _ ih => rwa [run, List.foldl_cons, hmove.step_eq]

/-! ## From a course to the run -/

/-- The engine waits, and all that has its time by now has happened or is due. -/
structure Awaits (plugin : Plugin) (s : Schedule) (p : Progress) (w : Supervision) : Prop where
  watch : w.watch = .waiting
  progress : w.progress = (begun p).progress
  signals : w.signals = []
  life : (w.life = .running ∧ ∀ e, plugin.ending = some e → w.now ≤ e.time) ∨
    ∃ status, w.life = .ended w.now status ∧ plugin.ending = some ⟨w.now, .ok status⟩
  asked : (w.asked = false ∧ ∀ time, s.shutdownAt = some time → w.now ≤ time) ∨
    s.shutdownAt = some w.now

/-- The engine has interrupted the program, which has ended as foreseen or still runs in time. -/
structure Stops (plugin : Plugin) (s : Schedule) (p : Progress) (since : Nat) (w : Supervision) :
    Prop where
  watch : w.watch = .stopping since
  progress : w.progress = (begun p).progress.beginClose
  signals : w.signals = [(since, .interrupt)]
  first : Engine.first plugin s = some (.shutdown since)
  life : (w.life = .running ∧ w.now ≤ since + s.limit ∧
      ∀ e, Engine.endingAfter plugin s since = some e → w.now ≤ e.time) ∨
    ∃ time status, w.life = .ended time status ∧ time ≤ since + s.limit ∧
      Engine.endingAfter plugin s since = some ⟨time, .ok status⟩

/-- How things stand in a course of events, for the outcome that the run has. -/
inductive Fits (plugin : Plugin) (s : Schedule) (p : Progress) (outcome : Option Run)
    (w : Supervision) : Prop where
  | waiting (h : Awaits plugin s p w)
  | stopping {since : Nat} (h : Stops plugin s p since w)
  | returned {result : Except Error Unit} (hwatch : w.watch = .returned result)
    (hlife : w.life ≠ .running) (houtcome : w.outcome? = outcome)

theorem foreseen_of_waiting (hsignals : w.signals = []) : w.foreseen plugin s = plugin.ending := by
  simp [foreseen, interruptedAt, hsignals]

theorem foreseen_of_stopping {since : Nat} (hsignals : w.signals = [(since, .interrupt)]) :
    w.foreseen plugin s = Engine.endingAfter plugin s since := by
  simp [foreseen, interruptedAt, hsignals]

section

variable (hp : p.lifecycle = ⟨.ready⟩) (hguard : s.guarded = false)

include hp in
/-- The end of the program is seen first. -/
theorem Awaits.exited (h : Awaits plugin s p w) {time : Nat} {status : ExitStatus}
    (hended : w.life = .ended time status)
    (hfirst : s.shutdownAt = some w.now → s.endingFirst = true) :
    (w.close (.returned (Engine.verdict status))).outcome? = Engine.run (.ok plugin) s p a := by
  rcases h.life with ⟨hrunning, -⟩ | ⟨other, hlife, hending⟩
  · simp [hrunning] at hended
  · obtain ⟨rfl, rfl⟩ : w.now = time ∧ other = status := by simpa [hlife] using hended
    -- A request of the same time may have come already or not; the schedule decides either way.
    have hshutdown : ∀ time, s.shutdownAt = some time →
        w.now < time ∨ w.now = time ∧ s.endingFirst = true := by
      intro time htime
      rcases h.asked with ⟨-, hlate⟩ | hnow
      · rcases Nat.lt_or_eq_of_le (hlate time htime) with hlt | rfl
        · exact .inl hlt
        · exact .inr ⟨rfl, hfirst htime⟩
      · obtain rfl : w.now = time := Option.some.inj (hnow.symm.trans htime)
        exact .inr ⟨rfl, hfirst htime⟩
    rw [Engine.run_ending hp (Engine.first_eq_ending.mpr ⟨hending, hshutdown⟩)]
    simp [outcome?, close, hlife, Life.fate?, h.progress, interruptedAt, h.signals]

include hguard in
/-- The request to shut down is seen first. -/
theorem Awaits.interrupted (h : Awaits plugin s p w) (hplugin : plugin.Lawful) (hasked : w.asked)
    (hfirst : ∀ e, plugin.ending = some e → e.time = w.now → s.endingFirst = false) :
    Stops plugin s p w.now ((w.interrupt true).close (.stopping w.now)) where
  watch := rfl
  progress := congrArg Progress.beginClose h.progress
  signals := by simp [close, interrupt, h.signals, interrupts]
  first := by
    refine Engine.first_eq_shutdown.mpr ⟨?_, fun e he => ⟨?_, hfirst e he⟩⟩
    · rcases h.asked with ⟨hquiet, -⟩ | hnow
      · simp [hquiet] at hasked
      · exact hnow
    · rcases h.life with ⟨-, hlate⟩ | ⟨status, -, hending⟩
      · exact hlate e he
      · cases hending.symm.trans he
        exact Nat.le_refl _
  life := by
    rcases h.life with ⟨hrunning, hlate⟩ | ⟨status, hended, hending⟩
    · exact .inl ⟨hrunning, Nat.le_add_right _ _, fun e he => (hplugin.after hguard he hlate).1⟩
    · exact .inr ⟨w.now, status, hended, Nat.le_add_right _ _,
        (Engine.endingAfter_eq_some hguard).mpr (.inl ⟨hending, Nat.le_refl _⟩)⟩

include hp hguard in
/-- The program ends in time after an interrupt. -/
theorem Stops.reaped {since time : Nat} {status : ExitStatus} (h : Stops plugin s p since w)
    (hended : w.life = .ended time status) :
    { w with watch := .returned (.ok ()) }.outcome? = Engine.run (.ok plugin) s p a := by
  rcases h.life with ⟨hrunning, -⟩ | ⟨_, _, hlife, hlimit, hafter⟩
  · simp [hrunning] at hended
  · rw [Engine.run_shutdown hp hguard h.first, Engine.stop_ended rfl hafter hlimit]
    simp [outcome?, hlife, Life.fate?, h.progress, interruptedAt, h.signals]

include hp hguard in
/-- The program does not end in time after an interrupt. -/
theorem Stops.expired {since : Nat} (h : Stops plugin s p since w) (hrunning : w.life = .running)
    (hover : since + s.limit ≤ w.now)
    (hending : ∀ e, Engine.endingAfter plugin s since = some e → e.time ≠ w.now) :
    { w.kill with watch := .returned (.ok ()) }.outcome? = Engine.run (.ok plugin) s p a := by
  rcases h.life with ⟨-, hlimit, hlate⟩ | ⟨_, _, hended, -⟩
  · have hnow : w.now = since + s.limit := Nat.le_antisymm hlimit hover
    have hlater : ∀ e, Engine.endingAfter plugin s since = some e → since + s.limit < e.time :=
      fun e he => hnow ▸ Nat.lt_of_le_of_ne (hlate e he) (hending e he).symm
    rw [Engine.run_shutdown hp hguard h.first, Engine.stop_killed hguard hlater]
    simp [outcome?, kill, Life.fate?, h.progress, interruptedAt, h.signals, hnow]
  · simp [hended] at hrunning

include hp hguard in
theorem Awaits.move (h : Awaits plugin s p w) (hplugin : plugin.Lawful) (hdue : Due plugin s w e)
    (hmove : Moves s.limit w e t) : Fits plugin s p (Engine.run (.ok plugin) s p a) t := by
  cases hmove with
  | passed duration =>
    cases hdue with
    | passed hrunning hending hwaiting _ =>
      rw [foreseen_of_waiting h.signals] at hending
      exact .waiting { h with life := .inl ⟨hrunning, hending⟩, asked := .inl (hwaiting h.watch) }
  | ended status _ =>
    cases hdue with
    | ended hending =>
      rw [foreseen_of_waiting h.signals] at hending
      exact .waiting { h with life := .inr ⟨status, rfl, hending⟩ }
  | asked =>
    cases hdue with
    | asked hshutdown => exact .waiting { h with asked := .inr hshutdown }
  | exitSeen _ hended =>
    cases hdue with
    | exitSeen hfirst => exact .returned rfl (by simp [close, hended]) (h.exited hp hended hfirst)
  | shutdownSeen sent _ hasked =>
    cases hdue with
    | shutdownSeen hfirst => exact .stopping (h.interrupted hguard hplugin hasked hfirst)
  | reaped hother => simp [h.watch] at hother
  | expired hother => simp [h.watch] at hother

include hp hguard in
theorem Stops.move {since : Nat} (h : Stops plugin s p since w) (hdue : Due plugin s w e)
    (hmove : Moves s.limit w e t) : Fits plugin s p (Engine.run (.ok plugin) s p a) t := by
  cases hmove with
  | passed duration =>
    cases hdue with
    | passed hrunning hending _ hstopping =>
      rw [foreseen_of_stopping h.signals] at hending
      exact .stopping { h with life := .inl ⟨hrunning, hstopping since h.watch, hending⟩ }
  | ended status hrunning =>
    cases hdue with
    | ended hending =>
      rw [foreseen_of_stopping h.signals] at hending
      rcases h.life with ⟨-, hlimit, -⟩ | ⟨time, other, hended, -⟩
      · exact .stopping { h with life := .inr ⟨w.now, status, rfl, hlimit, hending⟩ }
      · simp [hended] at hrunning
  | asked => exact .stopping { h with }
  | exitSeen hother => simp [h.watch] at hother
  | shutdownSeen _ hother => simp [h.watch] at hother
  | reaped _ hended => exact .returned rfl (by simp [hended]) (h.reaped hp hguard hended)
  | @expired other hother hrunning hover =>
    obtain rfl : since = other := by simpa [h.watch] using hother
    cases hdue with
    | expired hending =>
      rw [foreseen_of_stopping h.signals] at hending
      exact .returned rfl (by simp [kill]) (h.expired hp hguard hrunning hover hending)

include hp hguard in
theorem Fits.move (h : Fits plugin s p (Engine.run (.ok plugin) s p a) w)
    (hplugin : plugin.Lawful) (hdue : Due plugin s w e) (hmove : Moves s.limit w e t) :
    Fits plugin s p (Engine.run (.ok plugin) s p a) t := by
  cases h with
  | waiting h => exact h.move hp hguard hplugin hdue hmove
  | stopping h => exact h.move hp hguard hdue hmove
  | returned hwatch hlife houtcome =>
    cases hmove with
    | passed duration =>
      cases hdue with
      | passed hrunning => exact absurd hrunning hlife
    | ended _ hrunning => exact absurd hrunning hlife
    | asked => exact .returned hwatch hlife houtcome
    | exitSeen hother => simp [hwatch] at hother
    | shutdownSeen _ hother => simp [hwatch] at hother
    | reaped hother => simp [hwatch] at hother
    | expired hother => simp [hwatch] at hother

theorem awaits_begun : Awaits plugin s p (begun p) where
  watch := rfl
  progress := rfl
  signals := rfl
  life := .inl ⟨rfl, fun _ _ => Nat.zero_le _⟩
  asked := .inl ⟨rfl, fun _ _ => Nat.zero_le _⟩

include hp hguard in
theorem Plays.fits (h : Plays plugin s w events t) (hplugin : plugin.Lawful)
    (hw : Fits plugin s p (Engine.run (.ok plugin) s p a) w) :
    Fits plugin s p (Engine.run (.ok plugin) s p a) t := by
  induction h with
  | nil w => exact hw
  | cons hdue hmove _ ih => exact ih (hw.move hp hguard hplugin hdue hmove)

theorem Fits.outcome_eq {outcome : Option Run} (h : Fits plugin s p outcome w) {r : Run}
    (hr : w.outcome? = some r) : outcome = some r := by
  cases h with
  | waiting h => simp [outcome?, h.watch] at hr
  | stopping h => simp [outcome?, h.watch] at hr
  | returned _ _ houtcome => exact houtcome.symm.trans hr

include hp hguard in
theorem Plays.run_engine (h : Plays plugin s (begun p) events w) (hplugin : plugin.Lawful) {r : Run}
    (hr : w.outcome? = some r) : Engine.run (.ok plugin) s p a = some r :=
  (h.fits hp hguard hplugin (.waiting awaits_begun)).outcome_eq hr

/-! ## From the run to a course -/

/-- Time may pass up to the next thing that happens. -/
theorem Awaits.passed (h : Awaits plugin s p w) (hrunning : w.life = .running)
    (hasked : w.asked = false) {duration : Nat}
    (hending : ∀ e, plugin.ending = some e → w.now + duration ≤ e.time)
    (hshutdown : ∀ time, s.shutdownAt = some time → w.now + duration ≤ time) :
    Due plugin s w (.passed duration) := by
  refine .passed hrunning ?_ (fun _ => ⟨hasked, hshutdown⟩) ?_
  · rwa [foreseen_of_waiting h.signals]
  · simp [h.watch]

theorem Stops.passed {since : Nat} (h : Stops plugin s p since w) (hrunning : w.life = .running)
    {duration : Nat} (hlimit : w.now + duration ≤ since + s.limit)
    (hending : ∀ e, Engine.endingAfter plugin s since = some e → w.now + duration ≤ e.time) :
    Due plugin s w (.passed duration) := by
  refine .passed hrunning ?_ ?_ ?_
  · rwa [foreseen_of_stopping h.signals]
  · simp [h.watch]
  · intro other hother
    obtain rfl : since = other := by simpa [h.watch] using hother
    exact hlimit

include hguard in
/-- A program that was interrupted and still runs ends in time or is killed then. -/
theorem Stops.exists_plays {since : Nat} (h : Stops plugin s p since w) (hplugin : plugin.Lawful)
    (hrunning : w.life = .running) :
    ∃ events u r, Plays plugin s w events u ∧ u.outcome? = some r := by
  obtain ⟨-, hfirst⟩ := Engine.first_eq_shutdown.mp h.first
  obtain ⟨hlimit, hlate⟩ : w.now ≤ since + s.limit ∧
      ∀ e, Engine.endingAfter plugin s since = some e → w.now ≤ e.time := by
    rcases h.life with ⟨-, hboth⟩ | ⟨_, _, hended, -⟩
    · exact hboth
    · simp [hended] at hrunning
  have hforeseen (now : Nat) :
      foreseen plugin s { w with now := now } = Engine.endingAfter plugin s since :=
    foreseen_of_stopping h.signals
  -- Time passes up to the end of the program, or to the limit if that comes before.
  by_cases hintime : ∃ e, Engine.endingAfter plugin s since = some e ∧ e.time ≤ since + s.limit
  · obtain ⟨⟨time, _⟩, hafter, htime⟩ := hintime
    obtain ⟨-, status, rfl⟩ := hplugin.after hguard hafter fun f hf => (hfirst f hf).1
    obtain ⟨duration, rfl⟩ := Nat.exists_eq_add_of_le (hlate _ hafter)
    have hpassed : Due plugin s w (.passed duration) := by
      refine h.passed hrunning htime fun e he => ?_
      cases hafter.symm.trans he
      exact Nat.le_refl _
    exact ⟨[.passed duration, .ended status, .reaped], _, _,
      .cons hpassed (.passed duration) <|
      .cons (.ended ((hforeseen _).trans hafter)) (.ended status hrunning) <|
      .cons .reaped (.reaped h.watch rfl) <| .nil _, rfl⟩
  · have hlater : ∀ e, Engine.endingAfter plugin s since = some e → since + s.limit < e.time :=
      fun e he => Nat.lt_of_not_le fun hle => hintime ⟨e, he, hle⟩
    obtain ⟨duration, hnow⟩ := Nat.exists_eq_add_of_le hlimit
    rw [hnow] at hlater
    have hpassed : Due plugin s w (.passed duration) :=
      h.passed hrunning (Nat.le_of_eq hnow.symm) fun e he => Nat.le_of_lt (hlater e he)
    have hexpired : Due plugin s { w with now := w.now + duration } .expired :=
      .expired fun e he => Nat.ne_of_gt (hlater e ((hforeseen _).symm.trans he))
    exact ⟨[.passed duration, .expired], _, _, .cons hpassed (.passed duration) <|
      .cons hexpired (.expired h.watch hrunning (Nat.le_of_eq hnow)) <| .nil _, rfl⟩

include hguard in
/-- Unless nothing ever happens, the engine returns in some course. -/
theorem exists_plays (hplugin : plugin.Lawful) (hfirst : Engine.first plugin s ≠ none) :
    ∃ events u r, Plays plugin s (begun p) events u ∧ u.outcome? = some r := by
  have hawaits : Awaits plugin s p (begun p) := awaits_begun
  cases h : Engine.first plugin s with
  | none => exact absurd h hfirst
  | some signal =>
    cases signal with
    | ending e =>
      obtain ⟨hending, hshutdown⟩ := Engine.first_eq_ending.mp h
      obtain ⟨time, _⟩ := e
      obtain ⟨status, rfl⟩ := hplugin.told _ hending
      obtain ⟨duration, rfl⟩ := Nat.exists_eq_add_of_le (Nat.zero_le time)
      have hpassed : Due plugin s (begun p) (.passed duration) := by
        refine hawaits.passed rfl rfl (fun e he => ?_) fun t ht => ?_
        · cases hending.symm.trans he
          exact Nat.le_refl _
        · exact (hshutdown t ht).elim Nat.le_of_lt fun hsame => Nat.le_of_eq hsame.1
      have hexit : s.shutdownAt = some (0 + duration) → s.endingFirst = true :=
        fun hnow => (hshutdown _ hnow).elim (absurd · (Nat.lt_irrefl _)) And.right
      exact ⟨[.passed duration, .ended status, .exitSeen], _, _,
        .cons hpassed (.passed duration) <| .cons (.ended hending) (.ended status rfl) <|
        .cons (.exitSeen hexit) (.exitSeen rfl rfl) <| .nil _, rfl⟩
    | shutdown time =>
      obtain ⟨hshutdown, hending⟩ := Engine.first_eq_shutdown.mp h
      obtain ⟨duration, rfl⟩ := Nat.exists_eq_add_of_le (Nat.zero_le time)
      have hpassed : Due plugin s (begun p) (.passed duration) := by
        refine hawaits.passed rfl rfl (fun e he => (hending e he).1) fun t ht => ?_
        cases hshutdown.symm.trans ht
        exact Nat.le_refl _
      have hasked : Awaits plugin s p { begun p with now := 0 + duration, asked := true } :=
        { hawaits with
          life := .inl ⟨rfl, fun e he => (hending e he).1⟩
          asked := .inr hshutdown }
      obtain ⟨events, u, r, hplays, hr⟩ := Stops.exists_plays hguard
        (hasked.interrupted hguard hplugin rfl fun e he => (hending e he).2) hplugin rfl
      exact ⟨.passed duration :: .asked :: .shutdownSeen true :: events, u, r,
        .cons hpassed (.passed duration) <| .cons (.asked hshutdown) .asked <|
        .cons (.shutdownSeen fun e he => (hending e he).2) (.shutdownSeen true rfl rfl) hplays, hr⟩

include hp hguard in
/-- An engine runs as it is played, and in no other way. -/
theorem run_iff (hplugin : plugin.Lawful) {r : Run} :
    Engine.run (.ok plugin) s p a = some r ↔
      ∃ events, Plays plugin s (begun p) events (run s.limit (begun p) events) ∧
        (run s.limit (begun p) events).outcome? = some r := by
  constructor
  · intro hrun
    have hfirst : Engine.first plugin s ≠ none := by
      intro hnone
      rw [Engine.run_none hp hnone] at hrun
      cases hrun
    obtain ⟨events, w, r', hplays, hr'⟩ := exists_plays (p := p) hguard hplugin hfirst
    cases hrun.symm.trans (hplays.run_engine hp hguard hplugin hr')
    exact ⟨events, hplays.run_eq.symm ▸ hplays, hplays.run_eq.symm ▸ hr'⟩
  · rintro ⟨events, hplays, hr⟩
    exact hplays.run_engine hp hguard hplugin hr

end

end Supervision

/-! ## What a run comes to -/

/-- What the run of a program that was started has come to. -/
structure RunEnd (plugin : Plugin) (s : Schedule) (r : Run) : Prop where
  closing : r.lifecycle = ⟨.closing⟩
  gone : (∃ e, r.fate = .ended e) ∨ ∃ time, r.fate = .killed time
  /-- There is an error exactly if the program has ended first, and not well. -/
  error_iff : (∃ x, r.result = .error x) ↔ ∃ time status,
    Engine.first plugin s = some (.ending ⟨time, .ok status⟩) ∧ status.isSuccess = false
  /-- The program is interrupted exactly when a request to shut down came first. -/
  interrupted_iff : ∀ time,
    r.interruptedAt = some time ↔ Engine.first plugin s = some (.shutdown time)
  /-- The program is killed exactly if it does not end in time after an interrupt. -/
  killed_iff : ∀ time, r.fate = .killed time ↔ ∃ since, r.interruptedAt = some since ∧
    time = since + s.limit ∧
    ∀ e, Engine.endingAfter plugin s since = some e → since + s.limit < e.time

theorem runEnd_of_ending {time : Nat} {status : ExitStatus} (hp : p.lifecycle = ⟨.ready⟩)
    (hfirst : Engine.first plugin s = some (.ending ⟨time, .ok status⟩)) {r : Run}
    (hrun : Engine.run (.ok plugin) s p a = some r) : RunEnd plugin s r := by
  rw [Engine.run_ending hp hfirst] at hrun
  cases hrun
  constructor
  case closing => exact Supervision.lifecycle_beginClose (Supervision.lifecycle_begun hp)
  case gone => exact .inl ⟨_, rfl⟩
  case error_iff =>
    rw [hfirst, Supervision.verdict_error_iff]
    constructor
    · intro hstatus
      exact ⟨time, status, rfl, hstatus⟩
    · rintro ⟨_, _, heq, hstatus⟩
      cases heq
      exact hstatus
  case interrupted_iff => simp [hfirst]
  case killed_iff => simp

theorem runEnd_of_shutdown {since : Nat} (hp : p.lifecycle = ⟨.ready⟩)
    (hguard : s.guarded = false) (hplugin : plugin.Lawful)
    (hfirst : Engine.first plugin s = some (.shutdown since)) {r : Run}
    (hrun : Engine.run (.ok plugin) s p a = some r) : RunEnd plugin s r := by
  rw [Engine.run_shutdown hp hguard hfirst] at hrun
  cases hrun
  obtain ⟨-, hlate⟩ := Engine.first_eq_shutdown.mp hfirst
  have hstop := stop_cases hplugin hguard fun f hf => (hlate f hf).1
  constructor
  case closing => exact Supervision.lifecycle_beginClose (Supervision.lifecycle_begun hp)
  case gone =>
    rcases hstop with ⟨e, -, -, hended⟩ | ⟨-, hkilled⟩
    · exact .inl ⟨e, hended⟩
    · exact .inr ⟨_, hkilled⟩
  case error_iff => simp [hfirst]
  case interrupted_iff => simp [hfirst]
  case killed_iff =>
    intro time
    rcases hstop with ⟨e, hafter, hlimit, hended⟩ | ⟨hlater, hkilled⟩
    · rw [hended]
      constructor
      · intro hfate
        cases hfate
      · rintro ⟨_, heq, rfl, hlater⟩
        cases heq
        exact absurd hlimit (Nat.not_le.mpr (hlater e hafter))
    · rw [hkilled]
      constructor
      · intro hfate
        cases hfate
        exact ⟨since, rfl, rfl, hlater⟩
      · rintro ⟨_, heq, rfl, -⟩
        cases heq
        rfl

/-- What holds of an engine, whatever its program does and whenever it is to shut down. -/
structure SupervisionOutcome (spawned : Except Fault Plugin) (s : Schedule) (p : Progress)
    (a : Assignment) : Prop where
  /-- A program that cannot be started leaves the tunnel as it was. -/
  refused : ∀ f, spawned = .error f → Engine.run spawned s p a = some
    { progress := p, fate := .unstarted
      result := .error (.engine s!"cannot start {a.plugin}: {f.message}") }
  /-- The engine returns unless its program runs for ever and nobody asks it to shut down. -/
  returns_iff : ∀ plugin, spawned = .ok plugin → p.lifecycle = ⟨.ready⟩ →
    ((Engine.run spawned s p a).isSome ↔ plugin.ending ≠ none ∨ s.shutdownAt ≠ none)
  concluded : ∀ plugin r, spawned = .ok plugin → p.lifecycle = ⟨.ready⟩ →
    Engine.run spawned s p a = some r → RunEnd plugin s r
  /-- The run is the outcome of the engine and its program, each event at its time. -/
  played : ∀ plugin r, spawned = .ok plugin → p.lifecycle = ⟨.ready⟩ →
    (Engine.run spawned s p a = some r ↔ ∃ events,
      Supervision.Plays plugin s (.begun p) events ((Supervision.begun p).run s.limit events) ∧
        ((Supervision.begun p).run s.limit events).outcome? = some r)
  /-- What is owed to the program holds for events in any order, and late ones. -/
  overseen : p.lifecycle = ⟨.ready⟩ → ∀ limit events,
    Supervision.Overseen limit p events ((Supervision.begun p).run limit events)

theorem returns_iff (hp : p.lifecycle = ⟨.ready⟩) (hguard : s.guarded = false)
    (hplugin : plugin.Lawful) : (Engine.run (.ok plugin) s p a).isSome ↔
      plugin.ending ≠ none ∨ s.shutdownAt ≠ none := by
  constructor
  · intro hsome
    by_cases hnone : Engine.first plugin s = none
    · rw [Engine.run_none hp hnone] at hsome
      cases hsome
    · rw [Engine.first_eq_none] at hnone
      cases hending : plugin.ending with
      | some e => exact .inl nofun
      | none => exact .inr fun hshutdown => hnone ⟨hending, hshutdown⟩
  · intro h
    have hfirst : Engine.first plugin s ≠ none := by
      intro hnone
      obtain ⟨hending, hshutdown⟩ := Engine.first_eq_none.mp hnone
      exact h.elim (absurd hending) (absurd hshutdown)
    obtain ⟨events, w, r, hplays, hr⟩ := Supervision.exists_plays (p := p) hguard hplugin hfirst
    rw [hplays.run_engine hp hguard hplugin hr]
    rfl

theorem run_supervisionOutcome (spawned : Except Fault Plugin) (s : Schedule) (p : Progress)
    (a : Assignment) (hguard : s.guarded = false)
    (hplugin : ∀ plugin, spawned = .ok plugin → plugin.Lawful) :
    SupervisionOutcome spawned s p a where
  refused := by
    rintro f rfl
    rfl
  returns_iff := by
    rintro plugin rfl hp
    exact returns_iff hp hguard (hplugin plugin rfl)
  concluded := by
    rintro plugin r rfl hp hrun
    cases hfirst : Engine.first plugin s with
    | none =>
      rw [Engine.run_none hp hfirst] at hrun
      cases hrun
    | some signal =>
      cases signal with
      | ending e =>
        obtain ⟨time, _⟩ := e
        obtain ⟨status, rfl⟩ := (hplugin plugin rfl).told _ (Engine.first_eq_ending.mp hfirst).1
        exact runEnd_of_ending hp hfirst hrun
      | shutdown since => exact runEnd_of_shutdown hp hguard (hplugin plugin rfl) hfirst hrun
  played := by
    rintro plugin r rfl hp
    exact Supervision.run_iff hp hguard (hplugin plugin rfl)
  overseen hp limit events := Supervision.overseen_run hp limit events

/-- A program that runs for ever and ignores an interrupt. -/
def Plugin.stubborn : Plugin := ⟨none, fun _ => none⟩

def plain : Assignment :=
  ⟨⟨"i-1", "eu-west-1", none, none, "db", 5432, 15432, none⟩, ⟨"s-1", "token", "wss://host"⟩⟩

theorem run_supervisionOutcome_stubborn :
    (∃ r, Engine.run (.ok .stubborn) ⟨some 300, true, false, 5000⟩ ⟨⟨.ready⟩, []⟩ plain = some r ∧
      r.interruptedAt = some 300 ∧ r.fate = .killed 5300) ∧
    SupervisionOutcome (.ok .stubborn) ⟨some 300, true, false, 5000⟩ ⟨⟨.ready⟩, []⟩ plain := by
  refine ⟨⟨_, rfl, rfl, rfl⟩, run_supervisionOutcome _ _ _ _ rfl fun plugin hplugin => ?_⟩
  cases hplugin
  exact ⟨nofun, nofun⟩

end PortTunnel.Session
