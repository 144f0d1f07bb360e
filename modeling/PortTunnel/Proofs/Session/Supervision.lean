import PortTunnel.Proofs.Event
import PortTunnel.Session.Supervision

/-!
# What supervision comes to

Whatever the program of a session does and whenever the shutdown is requested, the engine does not
return before the program is gone, and sends no more to it than it must.

* `Supervision.Moves`: the events that can happen next, each with what it leads to.
* `Supervision.Situation`: the five situations that the engine and its program can be in.
* `Supervision.Overseen`: what holds after all events, in any order.
* `Supervision.overseen_run`: it does for a tunnel that was ready.
-/

namespace PortTunnel.Session

open Machine (ExitStatus)

namespace Supervision

variable {limit : Nat} {p : Progress} {w t : Supervision} {e : Event}

/-! ## One event -/

/-- The events that can happen next. -/
inductive Moves (limit : Nat) (w : Supervision) : Event → Supervision → Prop where
  | passed (duration : Nat) : Moves limit w (.passed duration) { w with now := w.now + duration }
  | ended (status : ExitStatus) (hlife : w.life = .running) :
    Moves limit w (.ended status) { w with life := .ended w.now status }
  | asked : Moves limit w .asked { w with asked := true }
  | exitSeen {time : Nat} {status : ExitStatus} (hwatch : w.watch = .waiting)
      (hlife : w.life = .ended time status) :
    Moves limit w .exitSeen (w.close (.returned (Engine.verdict status)))
  | shutdownSeen (sent : Bool) (hwatch : w.watch = .waiting) (hasked : w.asked) :
    Moves limit w (.shutdownSeen sent) ((w.interrupt sent).close (.stopping w.now))
  | reaped {since time : Nat} {status : ExitStatus} (hwatch : w.watch = .stopping since)
      (hlife : w.life = .ended time status) :
    Moves limit w .reaped { w with watch := .returned (.ok ()) }
  | expired {since : Nat} (hwatch : w.watch = .stopping since) (hlife : w.life = .running)
      (hlimit : since + limit ≤ w.now) :
    Moves limit w .expired { w.kill with watch := .returned (.ok ()) }

theorem Moves.step_eq (h : Moves limit w e t) : step limit w e = t := by
  cases h with
  | passed duration => rfl
  | ended status hlife => exact if_pos hlife
  | asked => rfl
  | exitSeen hwatch hlife => simp only [step, hwatch, hlife]
  | shutdownSeen sent hwatch hasked => simp only [step, hwatch, hasked]
  | reaped hwatch hlife => simp only [step, hwatch, hlife]
  | expired hwatch hlife hlimit => simp only [step, hwatch, hlife, if_pos hlimit]

/-- An event that cannot happen changes nothing. -/
theorem moves_or_same (limit : Nat) (w : Supervision) (e : Event) :
    Moves limit w e (step limit w e) ∨ step limit w e = w := by
  cases e with
  | passed duration => exact .inl (.passed duration)
  | asked => exact .inl .asked
  | ended status =>
    rw [step]
    split
    next hlife => exact .inl (.ended status hlife)
    next => exact .inr rfl
  | exitSeen =>
    rw [step]
    split
    next hwatch hlife => exact .inl (.exitSeen hwatch hlife)
    next => exact .inr rfl
  | shutdownSeen sent =>
    rw [step]
    split
    next hwatch hasked => exact .inl (.shutdownSeen sent hwatch hasked)
    next => exact .inr rfl
  | reaped =>
    rw [step]
    split
    next hwatch hlife => exact .inl (.reaped hwatch hlife)
    next => exact .inr rfl
  | expired =>
    rw [step]
    split
    next hwatch hlife =>
      split
      next hlimit => exact .inl (.expired hwatch hlife hlimit)
      next => exact .inr rfl
    next => exact .inr rfl

/-! ## Situations -/

/-- Where the engine and its program can stand, for a tunnel whose progress was `p` when it began
to run. -/
inductive Situation (limit : Nat) (p : Progress) (w : Supervision) : Prop where
  | waiting (hwatch : w.watch = .waiting) (hprogress : w.progress = p) (hsignals : w.signals = [])
    (hlife : ∀ time, w.life ≠ .killed time)
  | stopping {since : Nat} {sent : Bool} (hwatch : w.watch = .stopping since)
    (hprogress : w.progress = p.beginClose) (hsignals : w.signals = interrupts sent since)
    (hlife : ∀ time, w.life ≠ .killed time) (hsince : since ≤ w.now)
  | exited {time : Nat} {status : ExitStatus}
    (hwatch : w.watch = .returned (Engine.verdict status)) (hprogress : w.progress = p.beginClose)
    (hsignals : w.signals = []) (hlife : w.life = .ended time status)
  | stopped {since time : Nat} {sent : Bool} {status : ExitStatus}
    (hwatch : w.watch = .returned (.ok ())) (hprogress : w.progress = p.beginClose)
    (hsignals : w.signals = interrupts sent since) (hlife : w.life = .ended time status)
  | killed {since time : Nat} {sent : Bool} (hwatch : w.watch = .returned (.ok ()))
    (hprogress : w.progress = p.beginClose)
    (hsignals : w.signals = interrupts sent since ++ [(time, .kill)])
    (hlife : w.life = .killed time) (hlimit : since + limit ≤ time)

theorem Situation.of_waiting (h : Situation limit p w) (hwatch : w.watch = .waiting) :
    w.progress = p ∧ w.signals = [] ∧ ∀ time, w.life ≠ .killed time := by
  cases h with
  | waiting _ hprogress hsignals hlife => exact ⟨hprogress, hsignals, hlife⟩
  | _ h => simp [hwatch] at h

theorem Situation.of_stopping {since : Nat} (h : Situation limit p w)
    (hwatch : w.watch = .stopping since) :
    w.progress = p.beginClose ∧ (∃ sent, w.signals = interrupts sent since) ∧ since ≤ w.now := by
  cases h with
  | @stopping other sent hother hprogress hsignals _ hsince =>
    obtain rfl : other = since := by simpa [hother] using hwatch
    exact ⟨hprogress, ⟨sent, hsignals⟩, hsince⟩
  | _ h => simp [hwatch] at h

/-- Time alone changes nothing, nor does a request. -/
theorem Situation.later (h : Situation limit p w) (duration : Nat) (asked : Bool) :
    Situation limit p { w with now := w.now + duration, asked := asked } := by
  cases h with
  | waiting hwatch hprogress hsignals hlife => exact .waiting hwatch hprogress hsignals hlife
  | stopping hwatch hprogress hsignals hlife hsince =>
    exact .stopping hwatch hprogress hsignals hlife (Nat.le_add_right_of_le hsince)
  | exited hwatch hprogress hsignals hlife => exact .exited hwatch hprogress hsignals hlife
  | stopped hwatch hprogress hsignals hlife => exact .stopped hwatch hprogress hsignals hlife
  | killed hwatch hprogress hsignals hlife hlimit =>
    exact .killed hwatch hprogress hsignals hlife hlimit

theorem Moves.situation (hmove : Moves limit w e t) (h : Situation limit p w) :
    Situation limit p t := by
  -- The world moves within a situation; the engine goes from one to the next.
  cases hmove with
  | passed duration => exact h.later duration w.asked
  | asked => exact h.later 0 true
  | ended status hrunning =>
    cases h with
    | waiting hwatch hprogress hsignals _ => exact .waiting hwatch hprogress hsignals nofun
    | stopping hwatch hprogress hsignals _ hsince =>
      exact .stopping hwatch hprogress hsignals nofun hsince
    | exited _ _ _ hlife => simp [hrunning] at hlife
    | stopped _ _ _ hlife => simp [hrunning] at hlife
    | killed _ _ _ hlife _ => simp [hrunning] at hlife
  | exitSeen hwatch hlife =>
    obtain ⟨rfl, hsignals, -⟩ := h.of_waiting hwatch
    exact .exited rfl rfl hsignals hlife
  | shutdownSeen sent hwatch hasked =>
    obtain ⟨rfl, hsignals, hlife⟩ := h.of_waiting hwatch
    have hsent : (w.interrupt sent).signals = interrupts sent w.now := by simp [interrupt, hsignals]
    exact .stopping rfl rfl hsent hlife (Nat.le_refl _)
  | reaped hwatch hlife =>
    obtain ⟨hprogress, ⟨sent, hsignals⟩, -⟩ := h.of_stopping hwatch
    exact .stopped rfl hprogress hsignals hlife
  | @expired since hwatch hlife hlimit =>
    obtain ⟨hprogress, ⟨sent, hsignals⟩, -⟩ := h.of_stopping hwatch
    have hsent : w.kill.signals = interrupts sent since ++ [(w.now, .kill)] := by
      rw [kill, hsignals]
    exact .killed rfl hprogress hsent rfl hlimit

/-! ## What a change comes from -/

theorem Moves.failed (hmove : Moves limit w e t) {x : Error} (h : t.watch = .returned (.error x)) :
    w.watch = .returned (.error x) ∨ e = .exitSeen ∧ w.watch = .waiting ∧
      ∃ time status, w.life = .ended time status ∧ status.isSuccess = false := by
  cases hmove with
  | @exitSeen time status hwatch hlife =>
    refine .inr ⟨rfl, hwatch, time, status, hlife, ?_⟩
    cases hsuccess : status.isSuccess with
    | false => rfl
    | true =>
      rw [close, Engine.verdict, if_pos hsuccess] at h
      cases h
  | shutdownSeen => cases h
  | reaped => cases h
  | expired => cases h
  | _ => exact .inl h

theorem mem_interrupts {sent : Bool} {time since : Nat} {signal : Machine.Signal} :
    (time, signal) ∈ interrupts sent since ↔
      sent = true ∧ time = since ∧ signal = .interrupt := by
  cases sent <;> simp [interrupts]

theorem Moves.interrupted (hmove : Moves limit w e t) {time : Nat}
    (h : (time, .interrupt) ∈ t.signals) :
    (time, .interrupt) ∈ w.signals ∨
      e = .shutdownSeen true ∧ w.watch = .waiting ∧ w.asked ∧ w.now = time := by
  cases hmove with
  | shutdownSeen sent hwatch hasked =>
    rcases List.mem_append.mp h with hold | hnew
    · exact .inl hold
    · obtain ⟨rfl, rfl, -⟩ := mem_interrupts.mp hnew
      exact .inr ⟨rfl, hwatch, hasked, rfl⟩
  | expired =>
    rcases List.mem_append.mp h with hold | hnew
    · exact .inl hold
    · cases List.mem_singleton.mp hnew
  | _ => exact .inl h

theorem Moves.stopping (hmove : Moves limit w e t) {since : Nat} (h : t.watch = .stopping since) :
    w.watch = .stopping since ∨
      ∃ sent, e = .shutdownSeen sent ∧ w.watch = .waiting ∧ w.asked ∧ w.now = since := by
  cases hmove with
  | exitSeen => cases h
  | shutdownSeen sent hwatch hasked =>
    cases h
    exact .inr ⟨sent, rfl, hwatch, hasked, rfl⟩
  | reaped => cases h
  | expired => cases h
  | _ => exact .inl h

theorem Moves.killed (hmove : Moves limit w e t) {time : Nat} (h : t.life = .killed time) :
    w.life = .killed time ∨ e = .expired ∧ w.life = .running ∧ w.now = time ∧
      ∃ since, w.watch = .stopping since ∧ since + limit ≤ time := by
  cases hmove with
  | ended => cases h
  | @expired since hwatch hlife hlimit =>
    cases h
    exact .inr ⟨rfl, hlife, rfl, since, hwatch, hlimit⟩
  | _ => exact .inl h

theorem Moves.asked_iff (hmove : Moves limit w e t) : t.asked ↔ w.asked ∨ e = .asked := by
  cases hmove <;> simp [close, interrupt, kill]

theorem Moves.returned (hmove : Moves limit w e t) {result : Except Error Unit}
    (h : w.watch = .returned result) : t.watch = .returned result := by
  cases hmove with
  | exitSeen hwatch _ => simp [h] at hwatch
  | shutdownSeen _ hwatch _ => simp [h] at hwatch
  | reaped hwatch _ => simp [h] at hwatch
  | expired hwatch _ _ => simp [h] at hwatch
  | _ => exact h

/-! ## Any events -/

/-- What every move keeps holds after any events. -/
theorem run_kept {P : Supervision → Prop} (hw : P w)
    (hkept : ∀ u e t, Moves limit u e t → P u → P t) (events : List Event) :
    P (run limit w events) :=
  List.foldlRecOn events (step limit) hw fun u hu e _ => by
    rcases moves_or_same limit u e with hmove | hsame
    · exact hkept u e _ hmove hu
    · rwa [hsame]

/-- What holds in the end and did not at first comes from a move. -/
theorem exists_move {P : Supervision → Prop} {events : List Event} (h : P (run limit w events))
    (hw : ¬ P w) : ∃ before e after u, events = before ++ e :: after ∧
      ¬ P (run limit w before) ∧ Moves limit (run limit w before) e u ∧ P u := by
  obtain ⟨before, e, after, rfl, hbefore, hafter⟩ := exists_turn h hw
  rcases moves_or_same limit (run limit w before) e with hmove | hsame
  · exact ⟨before, e, after, _, rfl, hbefore, hmove, hafter⟩
  · change P (step limit (run limit w before) e) at hafter
    rw [hsame] at hafter
    exact absurd hafter hbefore

theorem returned_run {result : Except Error Unit} (h : w.watch = .returned result)
    (events : List Event) : (run limit w events).watch = .returned result :=
  run_kept h (fun _ _ _ hmove hu => hmove.returned hu) events

theorem run_append (limit : Nat) (w : Supervision) (before after : List Event) :
    run limit w (before ++ after) = run limit (run limit w before) after := List.foldl_append

theorem Situation.of_returned (h : Situation limit p w) {result : Except Error Unit}
    (hwatch : w.watch = .returned result) : w.progress = p.beginClose ∧ w.life ≠ .running := by
  cases h with
  | waiting hother => simp [hwatch] at hother
  | stopping hother => simp [hwatch] at hother
  | exited _ hprogress _ hlife => exact ⟨hprogress, by simp [hlife]⟩
  | stopped _ hprogress _ hlife => exact ⟨hprogress, by simp [hlife]⟩
  | killed _ hprogress _ hlife _ => exact ⟨hprogress, by simp [hlife]⟩

/-- A program that was interrupted is gone by the limit. -/
theorem returned_of_stopping {since : Nat} (hwatch : w.watch = .stopping since)
    (hlife : ∀ time, w.life ≠ .killed time) (hsince : since ≤ w.now) :
    (run limit w [.passed limit, .reaped, .expired]).watch = .returned (.ok ()) := by
  cases h : w.life with
  | running =>
    have hlimit : since + limit ≤ w.now + limit := Nat.add_le_add_right hsince limit
    simp [run, step, hwatch, h, hlimit]
  | ended time status => simp [run, step, hwatch, h]
  | killed time => exact absurd h (hlife time)

theorem Situation.stoppable (h : Situation limit p w) (hasked : w.asked) (sent : Bool) :
    ∃ result, (run limit w [.shutdownSeen sent, .passed limit, .reaped, .expired]).watch =
      .returned result := by
  cases h with
  | waiting hwatch _ _ hlife =>
    have hmove : Moves limit w (.shutdownSeen sent) _ := .shutdownSeen sent hwatch hasked
    rw [run, List.foldl_cons, hmove.step_eq]
    exact ⟨_, returned_of_stopping rfl hlife (Nat.le_refl _)⟩
  | stopping hwatch _ _ hlife hsince =>
    have hstep : step limit w (.shutdownSeen sent) = w := by simp only [step, hwatch]
    rw [run, List.foldl_cons, hstep]
    exact ⟨_, returned_of_stopping hwatch hlife hsince⟩
  | exited hwatch => exact ⟨_, returned_run hwatch _⟩
  | stopped hwatch => exact ⟨_, returned_run hwatch _⟩
  | killed hwatch => exact ⟨_, returned_run hwatch _⟩

/-! ## From the start of the program -/

theorem lifecycle_begun (hp : p.lifecycle = ⟨.ready⟩) :
    (begun p).progress.lifecycle = ⟨.running⟩ := by
  obtain ⟨l, moments⟩ := p
  cases hp
  rfl

theorem lifecycle_beginClose (hp : p.lifecycle = ⟨.running⟩) :
    p.beginClose.lifecycle = ⟨.closing⟩ := by
  obtain ⟨l, moments⟩ := p
  cases hp
  rfl

theorem verdict_error_iff (status : ExitStatus) :
    (∃ x, Engine.verdict status = .error x) ↔ status.isSuccess = false := by
  rw [Engine.verdict]
  cases status.isSuccess <;> simp

theorem situation_begun (limit : Nat) (p : Progress) (events : List Event) :
    Situation limit (begun p).progress (run limit (begun p) events) :=
  run_kept (.waiting rfl rfl rfl nofun) (fun _ _ _ hmove h => hmove.situation h) events

section

variable {events : List Event}

theorem asked_begun (h : (run limit (begun p) events).asked) : .asked ∈ events := by
  obtain ⟨before, e, after, u, rfl, hbefore, hmove, hasked⟩ :=
    exists_move (P := fun w => w.asked = true) h nofun
  rcases hmove.asked_iff.mp hasked with hold | rfl
  · exact absurd hold hbefore
  · exact List.mem_append_right before List.mem_cons_self

theorem exited_begun {before after : List Event} {time : Nat} {status : ExitStatus}
    (hwatch : (run limit (begun p) before).watch = .waiting)
    (hlife : (run limit (begun p) before).life = .ended time status) :
    (run limit (begun p) (before ++ .exitSeen :: after)).watch =
      .returned (Engine.verdict status) := by
  have hmove : Moves limit (run limit (begun p) before) .exitSeen _ := .exitSeen hwatch hlife
  rw [run_append, run, List.foldl_cons, hmove.step_eq]
  exact returned_run rfl after

theorem failed_begun {x : Error} (h : (run limit (begun p) events).watch = .returned (.error x)) :
    ∃ before after time status, events = before ++ .exitSeen :: after ∧
      (run limit (begun p) before).watch = .waiting ∧
      (run limit (begun p) before).life = .ended time status ∧ status.isSuccess = false := by
  obtain ⟨before, e, after, u, rfl, hbefore, hmove, hu⟩ :=
    exists_move (P := fun w => w.watch = .returned (.error x)) h nofun
  rcases hmove.failed hu with hold | ⟨rfl, hwatch, time, status, hlife, hstatus⟩
  · exact absurd hold hbefore
  · exact ⟨before, after, time, status, rfl, hwatch, hlife, hstatus⟩

/-- The engine has seen that it is to shut down, at a time and before any end of the program. -/
inductive ShutdownSeen (limit : Nat) (p : Progress) (sent : Bool) (since : Nat) :
    List Event → Prop where
  | intro {before after : List Event} (hasked : .asked ∈ before)
      (hwatch : (run limit (begun p) before).watch = .waiting)
      (hnow : (run limit (begun p) before).now = since) :
    ShutdownSeen limit p sent since (before ++ .shutdownSeen sent :: after)

theorem interrupted_begun {time : Nat}
    (h : (time, .interrupt) ∈ (run limit (begun p) events).signals) :
    ShutdownSeen limit p true time events := by
  obtain ⟨before, e, after, u, rfl, hbefore, hmove, hu⟩ :=
    exists_move (P := fun w => (time, .interrupt) ∈ w.signals) h nofun
  rcases hmove.interrupted hu with hold | ⟨rfl, hwatch, hasked, hnow⟩
  · exact absurd hold hbefore
  · exact .intro (asked_begun hasked) hwatch hnow

theorem stopping_begun {since : Nat} (h : (run limit (begun p) events).watch = .stopping since) :
    ∃ sent, ShutdownSeen limit p sent since events := by
  obtain ⟨before, e, after, u, rfl, hbefore, hmove, hu⟩ :=
    exists_move (P := fun w => w.watch = .stopping since) h nofun
  rcases hmove.stopping hu with hold | ⟨sent, rfl, hwatch, hasked, hnow⟩
  · exact absurd hold hbefore
  · exact ⟨sent, .intro (asked_begun hasked) hwatch hnow⟩

theorem killed_begun {time : Nat} (h : (run limit (begun p) events).life = .killed time) :
    ∃ sent since before after, events = before ++ .expired :: after ∧
      ShutdownSeen limit p sent since before ∧ since + limit ≤ time ∧
      (run limit (begun p) before).life = .running ∧ (run limit (begun p) before).now = time := by
  obtain ⟨before, e, after, u, rfl, hbefore, hmove, hu⟩ :=
    exists_move (P := fun w => w.life = .killed time) h nofun
  rcases hmove.killed hu with hold | ⟨rfl, hrunning, hnow, since, hwatch, hlimit⟩
  · exact absurd hold hbefore
  · obtain ⟨sent, hseen⟩ := stopping_begun hwatch
    exact ⟨sent, since, before, after, rfl, hseen, hlimit, hrunning, hnow⟩

end

/-- What holds of a program that was started for a tunnel, and of its engine, after all events so
far. -/
structure Overseen (limit : Nat) (p : Progress) (events : List Event) (w : Supervision) :
    Prop where
  /-- Once the engine has returned, closing has begun and the program runs no more. -/
  returned : ∀ result, w.watch = .returned result →
    w.progress.lifecycle = ⟨.closing⟩ ∧ w.life ≠ .running
  /-- An end that is seen before any request to shut down decides the result. -/
  exited : ∀ before after time status, events = before ++ .exitSeen :: after →
    (run limit (begun p) before).watch = .waiting →
    (run limit (begun p) before).life = .ended time status →
    w.watch = .returned (Engine.verdict status)
  /-- There is an error only if an end was seen before any request to shut down, and not a good
  one. -/
  error_iff : ∀ result, w.watch = .returned result → ((∃ x, result = .error x) ↔
    ∃ before after time status, events = before ++ .exitSeen :: after ∧
      (run limit (begun p) before).watch = .waiting ∧
      (run limit (begun p) before).life = .ended time status ∧ status.isSuccess = false)
  /-- The program is interrupted at most once, and killed at most once after that. -/
  signals : ∃ sent since, w.signals = interrupts sent since ∨
    ∃ time, w.signals = interrupts sent since ++ [(time, .kill)] ∧ w.life = .killed time
  /-- The program is interrupted only when it is seen, before its end, that the engine is to shut
  down. -/
  interrupted : ∀ time, (time, .interrupt) ∈ w.signals → ShutdownSeen limit p true time events
  /-- The program is killed only if it still runs when the time is over that it had from when the
  engine was to shut down. -/
  killed : ∀ time, w.life = .killed time → ∃ sent since before after,
    events = before ++ .expired :: after ∧ ShutdownSeen limit p sent since before ∧
      since + limit ≤ time ∧ (run limit (begun p) before).life = .running ∧
      (run limit (begun p) before).now = time
  /-- An engine that was asked to shut down returns in time, even if the program does nothing. -/
  stoppable : w.asked → ∀ sent, ∃ result,
    (run limit w [.shutdownSeen sent, .passed limit, .reaped, .expired]).watch = .returned result

theorem overseen_run (hp : p.lifecycle = ⟨.ready⟩) (limit : Nat) (events : List Event) :
    Overseen limit p events (run limit (begun p) events) := by
  have hsituation := situation_begun limit p events
  constructor
  case returned =>
    intro result hwatch
    obtain ⟨hprogress, hlife⟩ := hsituation.of_returned hwatch
    exact ⟨by rw [hprogress, lifecycle_beginClose (lifecycle_begun hp)], hlife⟩
  case exited =>
    rintro before after time status rfl hwatch hlife
    exact exited_begun hwatch hlife
  case error_iff =>
    intro result hwatch
    constructor
    · rintro ⟨x, rfl⟩
      exact failed_begun hwatch
    · rintro ⟨before, after, time, status, rfl, hwaiting, hlife, hstatus⟩
      rw [exited_begun hwaiting hlife] at hwatch
      cases hwatch
      exact (verdict_error_iff status).mpr hstatus
  case signals =>
    cases hsituation with
    | waiting _ _ hsignals _ => exact ⟨false, 0, .inl hsignals⟩
    | exited _ _ hsignals _ => exact ⟨false, 0, .inl hsignals⟩
    | stopping _ _ hsignals _ _ => exact ⟨_, _, .inl hsignals⟩
    | stopped _ _ hsignals _ => exact ⟨_, _, .inl hsignals⟩
    | killed _ _ hsignals hlife _ => exact ⟨_, _, .inr ⟨_, hsignals, hlife⟩⟩
  case interrupted => exact fun time => interrupted_begun
  case killed => exact fun time => killed_begun
  case stoppable => exact hsituation.stoppable

end Supervision

end PortTunnel.Session
