import PortTunnel.Proofs.Forward.Step

/-!
# Whole runs of the forwarding loop

Any order in which a loop takes the events that are ready is a run, of any length.

* `Loop.Runs`: runs as sequences of moves; `Loop.exists_runs`: every list of events stands for
  such a run, once the events that cannot happen are left out.
* `Loop.ServeOutcome`: what holds of a loop, whatever has happened to it.
* `Loop.serveOutcome_of_runs`: it holds after every run.
-/

namespace PortTunnel.Forward

namespace Loop

/-- A run: each event is one that can happen at its turn. -/
inductive Runs : Loop → List Event → Loop → Prop where
  | nil (s : Loop) : Runs s [] s
  | cons {s t u : Loop} {e : Event} {es : List Event} (hmove : s.Moves e t) (hrun : Runs t es u) :
    Runs s (e :: es) u

variable {s t u : Loop} {es fs : List Event}

theorem Runs.run_eq (h : Runs s es t) : s.run es = t := by
  induction h with
  | nil s => rfl
  | cons hmove _ ih => rw [run_cons, hmove.step_eq, ih]

theorem exists_runs (s : Loop) (es : List Event) :
    ∃ fs, fs.Sublist es ∧ Runs s fs (s.run es) := by
  induction es generalizing s with
  | nil => exact ⟨[], .slnil, .nil s⟩
  | cons e es ih =>
    obtain ⟨fs, hfs, hrun⟩ := ih (s.step e)
    rw [run_cons]
    rcases moves_or_same s e with hmove | hsame
    · exact ⟨e :: fs, hfs.cons_cons e, .cons hmove hrun⟩
    · rw [hsame] at hrun ⊢
      exact ⟨fs, hfs.cons e, hrun⟩

/-- A run comes by the loop after each of its parts. -/
theorem Runs.split (h : Runs s (es ++ fs) u) : Runs s es (s.run es) ∧ Runs (s.run es) fs u := by
  induction es generalizing s with
  | nil => exact ⟨.nil s, h⟩
  | cons e es ih =>
    cases h with
    | cons hmove hrun =>
      obtain ⟨hfirst, hlast⟩ := ih hrun
      rw [run_cons, hmove.step_eq]
      exact ⟨.cons hmove hfirst, hlast⟩

/-- The move of an event within a run. -/
theorem Runs.moves_at {e : Event} (h : Runs s (es ++ e :: fs) u) :
    (s.run es).Moves e ((s.run es).step e) := by
  obtain ⟨-, hrest⟩ := h.split
  cases hrest with
  | cons hmove _ => exact hmove.step_eq ▸ hmove

/-! ## Connections -/

theorem Runs.placed (h : Runs s es t) (hs : s.Placed) : t.Placed := by
  induction h with
  | nil s => exact hs
  | cons hmove _ ih => exact ih (hmove.placed hs)

theorem Runs.length_handed (h : Runs s es t) :
    t.handed.length = s.handed.length + es.count .accepted := by
  induction h with
  | nil s => rfl
  | @cons s t u e es hmove _ ih =>
    rw [ih, hmove.handed, List.count_cons]
    by_cases he : e = .accepted
    · subst he
      simp
      omega
    · simp [he]

theorem Runs.aborted (h : Runs s es t) {id : Nat} (hid : id ∈ t.aborted) :
    id ∈ s.aborted ∨ ∃ before e after, es = before ++ e :: after ∧ id ∈ (s.run before).live ∧
      (e = .noticed ∨ e = .expired) := by
  induction h with
  | nil s => exact .inl hid
  | @cons s t u e es hmove _ ih =>
    rcases ih hid with hold | ⟨before, f, after, rfl, hlive, hf⟩
    · rw [hmove.aborted] at hold
      split at hold
      · rename_i he
        rcases List.mem_append.mp hold with hold | hlive
        · exact .inl hold
        · exact .inr ⟨[], e, es, rfl, hlive, he⟩
      · exact .inl hold
    · refine .inr ⟨e :: before, f, after, rfl, ?_, hf⟩
      rwa [run_cons, hmove.step_eq]

theorem Runs.waiting (h : Runs s es t) (hs : s.Waiting) : t.Waiting := by
  induction h with
  | nil s => exact hs
  | cons hmove _ ih => exact ih (hmove.waiting hs)

/-! ## What is heard from outside -/

theorem Runs.asked_iff (h : Runs s es t) : t.asked ↔ s.asked ∨ .asked ∈ es := by
  induction h with
  | nil s => simp
  | @cons s t u e es hmove _ ih =>
    rw [ih, hmove.asked_iff, List.mem_cons, or_assoc]
    exact or_congr_right (or_congr_left eq_comm)

/-! ## Ways out of the loop -/

theorem Runs.serving_iff (h : Runs s es t) :
    t.phase = .serving ↔ s.phase = .serving ∧ .noticed ∉ es ∧ .shutdown ∉ es := by
  induction h with
  | nil s => simp
  | @cons s t u e es hmove _ ih =>
    rw [ih, hmove.serving_iff]
    simp only [List.mem_cons, not_or, ne_eq, eq_comm (a := e)]
    rw [and_assoc, and_and_and_comm]

/-- Once the loop is left, nothing is accepted and no other way out is taken. -/
theorem Runs.left (h : Runs s es t) (hs : s.phase ≠ .serving) {e : Event} (he : e ∈ es) :
    e ≠ .accepted ∧ e ≠ .acceptFailed ∧ e ≠ .noticed ∧ e ≠ .shutdown := by
  induction h with
  | nil s => cases he
  | @cons s t u f es hmove _ ih =>
    have ht : t.phase ≠ .serving := fun hphase => hs (hmove.serving_iff.mp hphase).1
    rcases List.mem_cons.mp he with rfl | he
    · refine ⟨?_, ?_, ?_, ?_⟩ <;> intro heq <;> exact hs (hmove.serving (by simp [heq]))
    · exact ih ht he

theorem Runs.failed (h : Runs s es t) {x : Error} (ht : t.phase = .failed x) :
    s.phase = .failed x ∨ ∃ before after, es = before ++ .noticed :: after ∧
      (s.report <|> before.findSome? Event.report?) = some x := by
  induction h with
  | nil s => exact .inl ht
  | @cons s t u e es hmove _ ih =>
    rcases ih ht with hold | ⟨before, after, rfl, hreport⟩
    · rcases (hmove.failed_iff x).mp hold with hfailed | ⟨rfl, hreport⟩
      · exact .inl hfailed
      · exact .inr ⟨[], es, rfl, by simp [hreport]⟩
    · refine .inr ⟨e :: before, after, rfl, ?_⟩
      rw [hmove.report] at hreport
      rw [List.findSome?_cons, ← hreport]
      cases s.report <;> cases e.report? <;> rfl

theorem Runs.closing (h : Runs s es t) (ht : t.closing) :
    s.closing ∨ ∃ before after, es = before ++ .shutdown :: after ∧
      (s.asked ∨ .asked ∈ before) := by
  induction h with
  | nil s => exact .inl ht
  | @cons s t u e es hmove _ ih =>
    rcases ih ht with hold | ⟨before, after, rfl, hasked⟩
    · rcases hmove.closing_iff.mp hold with hclosing | rfl
      · exact .inl hclosing
      · exact .inr ⟨[], es, rfl, .inl hmove.asked_of_shutdown⟩
    · refine .inr ⟨e :: before, after, rfl, ?_⟩
      rw [hmove.asked_iff] at hasked
      rw [List.mem_cons, ← or_assoc]
      exact hasked.imp_left (Or.imp_right Eq.symm)

theorem Runs.lifecycle (h : Runs s es t) :
    t.lifecycle = if .shutdown ∈ es then s.lifecycle.beginClose.1 else s.lifecycle := by
  induction h with
  | nil s => rfl
  | @cons s t u e es hmove hrun ih =>
    rw [ih, hmove.lifecycle]
    by_cases he : e = .shutdown
    · subst he
      have ht : t.phase ≠ .serving := fun hphase => (hmove.serving_iff.mp hphase).2.2 rfl
      have hrest : .shutdown ∉ es := fun hmem => (hrun.left ht hmem).2.2.2 rfl
      simp [hrest]
    · have hne : .shutdown ≠ e := fun heq => he heq.symm
      simp [he, hne]

theorem Runs.closed (h : Runs s es t) (hs : s.phase = .closed) : t.phase = .closed := by
  induction h with
  | nil s => exact hs
  | cons hmove _ ih => exact ih (hmove.closed hs)

theorem Runs.expired (h : Runs s es t) (he : .expired ∈ es) : t.phase = .closed := by
  induction h with
  | nil s => cases he
  | @cons s t u e es hmove hrun ih =>
    rcases List.mem_cons.mp he with rfl | he
    · exact hrun.closed hmove.closed_of_expired
    · exact ih he

theorem run_without_failures (s : Loop) (es : List Event) :
    s.run (es.filter (· ≠ .acceptFailed)) = s.run es := by
  induction es generalizing s with
  | nil => rfl
  | cons e es ih =>
    by_cases he : e = .acceptFailed
    · subst he
      simpa [step] using ih s
    · simpa [he] using ih (s.step e)

/-! ## The whole -/

/-- A loop as it begins. It may have been asked to shut down by then, and the remote side may
be gone. -/
def fresh (l : Lifecycle) (told : Bool) (gone : Option Error) : Loop :=
  { lifecycle := l, asked := told, report := gone }

/-- What holds of a loop after the events that it has taken, each at its turn. -/
structure ServeOutcome (l : Lifecycle) (told : Bool) (gone : Option Error) (events : List Event)
    (s : Loop) : Prop where
  /-- Each accepted connection is handed to a task, once and in the order of arrival. -/
  handed : s.handed = List.range (events.count .accepted)
  /-- A connection is open, finished or aborted, and only one of these. -/
  placed : (s.live ++ s.finished ++ s.aborted).Perm s.handed
  /-- Without the accepts that failed everything is as it is with them. -/
  acceptFailed : (fresh l told gone).run (events.filter (· ≠ .acceptFailed)) = s
  /-- The end of a connection, good or not, ends no loop that serves and concerns no other. -/
  ended : ∀ before id after u, events = before ++ .ended id :: after →
    (fresh l told gone).run before = u →
      (u.phase = .serving → (u.step (.ended id)).phase = .serving) ∧
      (u.step (.ended id)).live = u.live.filter (· ≠ id) ∧
      (u.step (.ended id)).finished = u.finished ++ [id] ∧
      (u.step (.ended id)).aborted = u.aborted
  /-- Nothing is accepted and no other way out is taken after the loop was left. -/
  left : ∀ before e after, events = before ++ e :: after → e = .noticed ∨ e = .shutdown →
    ∀ f ∈ after, f ≠ .accepted ∧ f ≠ .acceptFailed ∧ f ≠ .noticed ∧ f ≠ .shutdown
  /-- An error is the first that was reported, and was noticed before any request to shut
  down; the lifecycle is left as it was. -/
  err : ∀ e, s.result? = some (.error e) → s.lifecycle = l ∧ .shutdown ∉ events ∧
    ∃ before after, events = before ++ .noticed :: after ∧
      (gone <|> before.findSome? Event.report?) = some e
  /-- A loop that ends well was asked to shut down and has seen it. -/
  ok : s.result? = some (.ok ()) → .noticed ∉ events ∧
    ∃ before after, events = before ++ .shutdown :: after ∧ (told ∨ .asked ∈ before)
  /-- Closing has begun with the request to shut down, before open connections are waited
  for, and the lifecycle is not touched otherwise. -/
  lifecycle : ∀ before after, events = before ++ after →
    ((fresh l told gone).run before).lifecycle =
      if .shutdown ∈ before ∧ (l.stage = .ready ∨ l.stage = .running) then ⟨.closing⟩ else l
  /-- A request to shut down is never lost on a loop that serves. -/
  heard : s.phase = .serving → told ∨ .asked ∈ events → (s.step .shutdown).phase ≠ .serving
  /-- A connection is aborted only if it was open when the loop noticed that the remote side is
  gone, or when the time for open connections was over. -/
  aborted : ∀ id ∈ s.aborted, ∃ before e after, events = before ++ e :: after ∧
    id ∈ ((fresh l told gone).run before).live ∧ (e = .noticed ∨ e = .expired)
  /-- A loop that was left has returned as soon as no connection is open, and not before. -/
  returned : s.phase ≠ .serving → (s.result?.isSome ↔ s.live = [])
  /-- The loop has returned at the latest when the time for open connections is over. -/
  expired : .expired ∈ events → s.result? = some (.ok ())

theorem result?_ok (s : Loop) : s.result? = some (.ok ()) ↔ s.phase = .closed := by
  unfold result?
  cases s.phase <;> simp

theorem result?_error (s : Loop) (e : Error) :
    s.result? = some (.error e) ↔ s.phase = .failed e := by
  unfold result?
  cases s.phase <;> simp

theorem Waiting.result?_isSome (hs : s.Waiting) (hphase : s.phase ≠ .serving) :
    s.result?.isSome ↔ s.live = [] := by
  unfold result?
  cases h : s.phase with
  | serving => exact absurd h hphase
  | draining => simpa using hs.draining h
  | closed => simpa using hs.closed h
  | failed e => simpa using hs.failed e h

/-- What follows the way out of a loop. -/
theorem Runs.left_after {e : Event} (h : Runs s (es ++ e :: fs) u)
    (he : e = .noticed ∨ e = .shutdown) {f : Event} (hf : f ∈ fs) :
    f ≠ .accepted ∧ f ≠ .acceptFailed ∧ f ≠ .noticed ∧ f ≠ .shutdown := by
  obtain ⟨-, hrest⟩ := h.split
  cases hrest with
  | @cons _ t _ _ _ hmove hrun =>
    have ht : t.phase ≠ .serving := by
      intro hphase
      obtain ⟨-, hnoticed, hshutdown⟩ := hmove.serving_iff.mp hphase
      exact he.elim hnoticed hshutdown
    exact hrun.left ht hf

/-- A loop is left once. -/
theorem Runs.left_once {e f : Event} (h : Runs s (es ++ e :: fs) u)
    (he : e = .noticed ∨ e = .shutdown) (hf : f = .noticed ∨ f = .shutdown)
    (hmem : f ∈ es ++ e :: fs) : f = e := by
  rcases List.mem_append.mp hmem with hbefore | hmem
  · have hserving := h.moves_at.serving (.inr (.inr he))
    obtain ⟨-, hnoticed, hshutdown⟩ := h.split.1.serving_iff.mp hserving
    rcases hf with rfl | rfl
    · exact absurd hbefore hnoticed
    · exact absurd hbefore hshutdown
  · rcases List.mem_cons.mp hmem with heq | hafter
    · exact heq
    · obtain ⟨-, -, hnoticed, hshutdown⟩ := h.left_after he hafter
      exact hf.elim (absurd · hnoticed) (absurd · hshutdown)

section

variable {l : Lifecycle} {told : Bool} {gone : Option Error} {events : List Event}

theorem Runs.failed_fresh (h : Runs (fresh l told gone) events s) {e : Error}
    (hphase : s.phase = .failed e) :
    .shutdown ∉ events ∧ ∃ before after, events = before ++ .noticed :: after ∧
      (gone <|> before.findSome? Event.report?) = some e := by
  rcases h.failed hphase with hold | ⟨before, after, rfl, hreport⟩
  · cases hold
  · refine ⟨?_, before, after, rfl, hreport⟩
    intro hmem
    cases h.left_once (.inl rfl) (.inr rfl) hmem

theorem Runs.closing_fresh (h : Runs (fresh l told gone) events s) (hclosing : s.closing) :
    .noticed ∉ events ∧ ∃ before after, events = before ++ .shutdown :: after ∧
      (told ∨ .asked ∈ before) := by
  rcases h.closing hclosing with hold | ⟨before, after, rfl, hasked⟩
  · rcases hold with hold | hold <;> cases hold
  · refine ⟨?_, before, after, rfl, hasked⟩
    intro hmem
    cases h.left_once (.inr rfl) (.inl rfl) hmem

theorem Runs.lifecycle_fresh (h : Runs (fresh l told gone) events s) :
    s.lifecycle =
      if .shutdown ∈ events ∧ (l.stage = .ready ∨ l.stage = .running) then ⟨.closing⟩ else l := by
  rw [h.lifecycle]
  by_cases hshutdown : .shutdown ∈ events
  · simp [hshutdown, fresh, Lifecycle.beginClose_eq]
  · simp [hshutdown, fresh]

theorem placed_fresh : (fresh l told gone).Placed := ⟨rfl, .refl _⟩

theorem waiting_fresh : (fresh l told gone).Waiting := waiting_of_serving rfl

theorem serveOutcome_of_runs (h : Runs (fresh l told gone) events s) :
    ServeOutcome l told gone events s := by
  have hplaced := h.placed placed_fresh
  have hwaiting := h.waiting waiting_fresh
  constructor
  case handed =>
    rw [hplaced.handed, h.length_handed]
    exact congrArg List.range (Nat.zero_add _)
  case placed => exact hplaced.perm
  case acceptFailed => rw [run_without_failures, h.run_eq]
  case ended =>
    rintro before id after u rfl rfl
    have hmove := h.moves_at
    obtain ⟨hlive, hfinished⟩ := hmove.live_of_ended
    refine ⟨fun hphase => hmove.serving_iff.mpr ⟨hphase, by simp, by simp⟩, hlive, hfinished, ?_⟩
    simpa using hmove.aborted
  case left =>
    rintro before e after rfl he
    exact fun f hf => h.left_after he hf
  case err =>
    intro e hresult
    obtain ⟨hshutdown, hnoticed⟩ := h.failed_fresh ((result?_error s e).mp hresult)
    refine ⟨?_, hshutdown, hnoticed⟩
    rw [h.lifecycle_fresh, if_neg fun hboth => hshutdown hboth.1]
  case ok => exact fun hresult => h.closing_fresh (.inr ((result?_ok s).mp hresult))
  case lifecycle =>
    rintro before after rfl
    exact h.split.1.lifecycle_fresh
  case heard =>
    intro hphase hasked
    have hboth : s.phase = .serving ∧ s.asked := ⟨hphase, h.asked_iff.mpr hasked⟩
    rw [step, if_pos hboth, close, ne_eq, settle_serving]
    simp
  case aborted =>
    intro id hid
    rcases h.aborted hid with hold | habort
    · cases hold
    · exact habort
  case returned => exact hwaiting.result?_isSome
  case expired => exact fun he => (result?_ok s).mpr (h.expired he)

/-- Of two connections one ends in time, the other is cut. -/
theorem serveOutcome_of_runs_cut :
    ∃ s, s.finished = [0] ∧ s.aborted = [1] ∧ ServeOutcome ⟨.running⟩ false none
      [.accepted, .acceptFailed, .accepted, .ended 0, .asked, .shutdown, .expired] s := by
  refine ⟨_, ?_, ?_, serveOutcome_of_runs <| .cons (.accepted rfl) <| .cons (.acceptFailed rfl) <|
    .cons (.accepted rfl) <| .cons (.ended (by decide)) <| .cons .asked <|
    .cons (.shutdown rfl rfl) <| .cons (.expired rfl) <| .nil _⟩
  · rfl
  · rfl

end

end Loop

end PortTunnel.Forward
