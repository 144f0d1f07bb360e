import PortTunnel.Forward.Loop

/-!
# One event of the forwarding loop

What a single event does to each part of a loop. Runs are dealt with by induction on their
events, from these facts alone.

* `Loop.Moves`: the events that can happen next, each with what it leads to.
* `Loop.moves_or_same`: the step of a loop is such a move or no move at all.
* `Loop.Placed`: each connection is open, finished or aborted, and only one of these.
* `Loop.Waiting`: a loop that has been left waits for open connections and for nothing else.
-/

namespace PortTunnel

/-- A tunnel that is ready or running begins to close; any other is left as it is. -/
theorem Lifecycle.beginClose_eq (l : Lifecycle) :
    l.beginClose.1 = if l.stage = .ready ∨ l.stage = .running then ⟨.closing⟩ else l := by
  obtain ⟨stage⟩ := l
  cases stage <;> rfl

namespace Forward

/-- What an event reports about the remote side. -/
def Event.report? : Event → Option Error
  | .reported e => some e
  | _ => none

namespace Loop

/-- The events that can happen next. Reports and requests come from outside, at any time. -/
inductive Moves (s : Loop) : Event → Loop → Prop where
  | accepted (hphase : s.phase = .serving) : Moves s .accepted s.accept
  | acceptFailed (hphase : s.phase = .serving) : Moves s .acceptFailed s
  | ended {id : Nat} (hlive : id ∈ s.live) : Moves s (.ended id) (s.finish id)
  | reported (e : Error) : Moves s (.reported e) { s with report := s.report <|> some e }
  | noticed {e : Error} (hphase : s.phase = .serving) (hreport : s.report = some e) :
    Moves s .noticed (s.abort (.failed e))
  | asked : Moves s .asked { s with asked := true }
  | shutdown (hphase : s.phase = .serving) (hasked : s.asked) : Moves s .shutdown s.close
  | expired (hphase : s.phase = .draining) : Moves s .expired (s.abort .closed)

variable {s t : Loop} {e : Event}

theorem Moves.step_eq (h : s.Moves e t) : s.step e = t := by
  cases h with
  | accepted hphase => exact if_pos hphase
  | acceptFailed _ => rfl
  | ended _ => rfl
  | reported _ => rfl
  | noticed hphase hreport => simp [step, hphase, hreport]
  | asked => rfl
  | shutdown hphase hasked => exact if_pos ⟨hphase, hasked⟩
  | expired hphase => exact if_pos hphase

/-- An event that cannot happen changes nothing. -/
theorem moves_or_same (s : Loop) (e : Event) : s.Moves e (s.step e) ∨ s.step e = s := by
  cases e with
  | accepted =>
    by_cases hphase : s.phase = .serving
    · rw [step, if_pos hphase]
      exact .inl (.accepted hphase)
    · exact .inr (if_neg hphase)
  | acceptFailed => exact .inr rfl
  | ended id =>
    by_cases hlive : id ∈ s.live
    · exact .inl (.ended hlive)
    · exact .inr (if_neg hlive)
  | reported e => exact .inl (.reported e)
  | noticed =>
    cases hreport : s.report with
    | none => exact .inr (by cases hphase : s.phase <;> simp [step, hphase, hreport])
    | some e =>
      by_cases hphase : s.phase = .serving
      · have hstep : s.step .noticed = s.abort (.failed e) := by simp [step, hphase, hreport]
        rw [hstep]
        exact .inl (.noticed hphase hreport)
      · refine .inr ?_
        rw [step]
        split
        · rename_i hserving _
          exact absurd hserving hphase
        · rfl
  | asked => exact .inl .asked
  | shutdown =>
    by_cases hboth : s.phase = .serving ∧ s.asked
    · rw [step, if_pos hboth]
      exact .inl (.shutdown hboth.1 hboth.2)
    · exact .inr (if_neg hboth)
  | expired =>
    by_cases hphase : s.phase = .draining
    · rw [step, if_pos hphase]
      exact .inl (.expired hphase)
    · exact .inr (if_neg hphase)

/-! ## The end of a drain -/

/-- Only the phase of a loop changes when it is over with its last connection. -/
theorem settle_eq (s : Loop) : s.settle = s ∨ s.settle = { s with phase := .closed } := by
  unfold settle
  split
  · exact .inr rfl
  · exact .inl rfl

@[simp] theorem settle_lifecycle (s : Loop) : s.settle.lifecycle = s.lifecycle := by
  rcases s.settle_eq with h | h <;> rw [h]

@[simp] theorem settle_handed (s : Loop) : s.settle.handed = s.handed := by
  rcases s.settle_eq with h | h <;> rw [h]

@[simp] theorem settle_live (s : Loop) : s.settle.live = s.live := by
  rcases s.settle_eq with h | h <;> rw [h]

@[simp] theorem settle_finished (s : Loop) : s.settle.finished = s.finished := by
  rcases s.settle_eq with h | h <;> rw [h]

@[simp] theorem settle_aborted (s : Loop) : s.settle.aborted = s.aborted := by
  rcases s.settle_eq with h | h <;> rw [h]

@[simp] theorem settle_report (s : Loop) : s.settle.report = s.report := by
  rcases s.settle_eq with h | h <;> rw [h]

@[simp] theorem settle_asked (s : Loop) : s.settle.asked = s.asked := by
  rcases s.settle_eq with h | h <;> rw [h]

theorem settle_phase (s : Loop) :
    s.settle.phase = if s.phase = .draining ∧ s.live = [] then .closed else s.phase := by
  unfold settle
  split <;> rfl

theorem finish_eq {id : Nat} (h : id ∈ s.live) : s.finish id =
    { s with live := s.live.filter (· ≠ id), finished := s.finished ++ [id] }.settle :=
  if_pos h

/-! ## What an event does to each part -/

theorem Moves.handed (h : s.Moves e t) :
    t.handed = if e = .accepted then s.handed ++ [s.handed.length] else s.handed := by
  cases h with
  | ended hlive => simp [finish_eq hlive]
  | _ => simp [accept, abort, close]

theorem Moves.report (h : s.Moves e t) : t.report = (s.report <|> e.report?) := by
  cases h with
  | ended hlive => simp [finish_eq hlive, Event.report?]
  | _ => simp [accept, abort, close, Event.report?]

theorem Moves.asked_iff (h : s.Moves e t) : t.asked ↔ s.asked ∨ e = .asked := by
  cases h with
  | ended hlive => simp [finish_eq hlive]
  | _ => simp [accept, abort, close]

theorem Moves.lifecycle (h : s.Moves e t) :
    t.lifecycle = if e = .shutdown then s.lifecycle.beginClose.1 else s.lifecycle := by
  cases h with
  | ended hlive => simp [finish_eq hlive]
  | _ => simp [accept, abort, close]

theorem Moves.aborted (h : s.Moves e t) :
    t.aborted = if e = .noticed ∨ e = .expired then s.aborted ++ s.live else s.aborted := by
  cases h with
  | ended hlive => simp [finish_eq hlive]
  | _ => simp [accept, abort, close]

/-- A connection that is open was so before, or has just been accepted. -/
theorem Moves.mem_live (h : s.Moves e t) {id : Nat} (hid : id ∈ t.live) :
    id ∈ s.live ∨ e = .accepted ∧ id = s.handed.length := by
  cases h with
  | accepted _ =>
    rcases List.mem_append.mp hid with hold | hnew
    · exact .inl hold
    · exact .inr ⟨rfl, List.mem_singleton.mp hnew⟩
  | ended hlive =>
    rw [finish_eq hlive, settle_live] at hid
    exact .inl (List.mem_filter.mp hid).1
  | shutdown _ _ =>
    rw [close, settle_live] at hid
    exact .inl hid
  | noticed _ _ => cases hid
  | expired _ => cases hid
  | _ => exact .inl hid

theorem Moves.live_of_ended {id : Nat} (h : s.Moves (.ended id) t) :
    t.live = s.live.filter (· ≠ id) ∧ t.finished = s.finished ++ [id] := by
  cases h with
  | ended hlive => simp [finish_eq hlive]

/-! ## The place of a connection -/

/-- Each connection that was handed to a task is open, finished or aborted, and only one of
these; connections are handed out one by one. -/
structure Placed (s : Loop) : Prop where
  handed : s.handed = List.range s.handed.length
  perm : (s.live ++ s.finished ++ s.aborted).Perm s.handed

theorem Placed.nodup_live (h : s.Placed) : s.live.Nodup := by
  have hhanded : s.handed.Nodup := by
    rw [h.handed]
    exact List.nodup_range
  have hall := h.perm.nodup_iff.mpr hhanded
  rw [List.append_assoc] at hall
  exact hall.sublist (List.sublist_append_left _ _)

theorem Placed.perm_abort (h : s.Placed) :
    (s.finished ++ (s.aborted ++ s.live)).Perm s.handed := by
  have hrotated : (s.finished ++ s.aborted ++ s.live).Perm (s.live ++ (s.finished ++ s.aborted)) :=
    List.perm_append_comm
  rw [← List.append_assoc]
  refine hrotated.trans ?_
  rw [← List.append_assoc]
  exact h.perm

theorem perm_filter_ne {ids : List Nat} (hnodup : ids.Nodup) {id : Nat} (h : id ∈ ids) :
    ids.Perm (id :: ids.filter (· ≠ id)) := by
  have herase : ids.erase id = ids.filter (· ≠ id) := by
    rw [hnodup.erase_eq_filter]
    refine List.filter_congr fun x _ => ?_
    by_cases hx : x = id <;> simp [hx]
  rw [← herase]
  exact List.perm_cons_erase h

theorem Moves.placed (h : s.Moves e t) (hs : s.Placed) : t.Placed := by
  have hhanded : t.handed = List.range t.handed.length := by
    rw [h.handed]
    split
    · rw [List.length_append, List.length_singleton, List.range_succ, ← hs.handed]
    · exact hs.handed
  refine ⟨hhanded, ?_⟩
  cases h with
  | accepted _ =>
    show (s.live ++ [s.handed.length] ++ s.finished ++ s.aborted).Perm
      (s.handed ++ [s.handed.length])
    refine List.Perm.trans ?_ (hs.perm.append_right [s.handed.length])
    simp only [List.append_assoc]
    refine List.Perm.append_left _ ?_
    rw [← List.append_assoc s.finished]
    exact List.perm_append_comm
  | @ended id hlive =>
    have hlost := perm_filter_ne hs.nodup_live hlive
    have hmoved : (s.live.filter (· ≠ id) ++ (s.finished ++ [id]) ++ s.aborted).Perm
        (id :: s.live.filter (· ≠ id) ++ s.finished ++ s.aborted) := by
      refine List.Perm.append_right _ ?_
      rw [← List.append_assoc]
      exact List.perm_append_comm
    simpa [finish_eq hlive] using
      hmoved.trans (((hlost.append_right _).append_right _).symm.trans hs.perm)
  | noticed _ _ => exact hs.perm_abort
  | expired _ => exact hs.perm_abort
  | shutdown _ _ => simpa [close] using hs.perm
  | _ => exact hs.perm

/-! ## Phases -/

/-- Whether a loop closes in good order: it drains, or has done so. -/
def closing (s : Loop) : Prop := s.phase = .draining ∨ s.phase = .closed

theorem settle_serving (s : Loop) : s.settle.phase = .serving ↔ s.phase = .serving := by
  rw [settle_phase]
  split
  · rename_i h
    simp [h.1]
  · rfl

theorem settle_failed (s : Loop) (e : Error) :
    s.settle.phase = .failed e ↔ s.phase = .failed e := by
  rw [settle_phase]
  split
  · rename_i h
    simp [h.1]
  · rfl

theorem settle_closing (s : Loop) : s.settle.closing ↔ s.closing := by
  rw [closing, closing, settle_phase]
  split
  · rename_i h
    simp [h.1]
  · rfl

theorem Moves.serving_iff (h : s.Moves e t) :
    t.phase = .serving ↔ s.phase = .serving ∧ e ≠ .noticed ∧ e ≠ .shutdown := by
  cases h with
  | ended hlive => simp [finish_eq hlive, settle_serving]
  | shutdown _ _ => simp [close, settle_serving]
  | expired hphase => simp [abort, hphase]
  | _ => simp [accept, abort]

/-- What only a loop that still serves takes up. -/
theorem Moves.serving (h : s.Moves e t)
    (he : e = .accepted ∨ e = .acceptFailed ∨ e = .noticed ∨ e = .shutdown) :
    s.phase = .serving := by
  cases h with
  | accepted hphase => exact hphase
  | acceptFailed hphase => exact hphase
  | noticed hphase _ => exact hphase
  | shutdown hphase _ => exact hphase
  | _ => simp at he

theorem Moves.failed_iff (h : s.Moves e t) (x : Error) :
    t.phase = .failed x ↔ s.phase = .failed x ∨ e = .noticed ∧ s.report = some x := by
  cases h with
  | ended hlive => simp [finish_eq hlive, settle_failed]
  | shutdown hphase _ => simp [close, settle_failed, hphase]
  | expired hphase => simp [abort, hphase]
  | noticed hphase hreport => simp [abort, hphase, hreport]
  | _ => simp [accept]

theorem Moves.closing_iff (h : s.Moves e t) : t.closing ↔ s.closing ∨ e = .shutdown := by
  cases h with
  | ended hlive =>
    rw [finish_eq hlive, settle_closing]
    simp [closing]
  | shutdown _ _ =>
    rw [close, settle_closing]
    simp [closing]
  | expired hphase => simp [abort, closing, hphase]
  | noticed hphase _ => simp [abort, closing, hphase]
  | _ => simp [accept, closing]

theorem Moves.closed (h : s.Moves e t) (hs : s.phase = .closed) : t.phase = .closed := by
  cases h with
  | ended hlive => simp [finish_eq hlive, settle_phase, hs]
  | shutdown hphase _ => simp [hs] at hphase
  | expired _ => rfl
  | noticed hphase _ => simp [hs] at hphase
  | _ => exact hs

theorem Moves.closed_of_expired (h : s.Moves .expired t) : t.phase = .closed := by
  cases h with
  | expired _ => rfl

theorem Moves.asked_of_shutdown (h : s.Moves .shutdown t) : s.asked := by
  cases h with
  | shutdown _ hasked => exact hasked

/-- A loop that is left waits for open connections and for nothing else: it drains as long as
one is open, and has returned with none. -/
structure Waiting (s : Loop) : Prop where
  draining : s.phase = .draining → s.live ≠ []
  closed : s.phase = .closed → s.live = []
  failed : ∀ e, s.phase = .failed e → s.live = []

theorem waiting_of_serving (h : s.phase = .serving) : s.Waiting := by
  constructor <;> simp [h]

theorem waiting_settle (hclosed : s.phase ≠ .closed) (hfailed : ∀ e, s.phase ≠ .failed e) :
    s.settle.Waiting := by
  unfold settle
  split
  · rename_i h
    constructor
    · intro hphase
      cases hphase
    · exact fun _ => h.2
    · intro e hphase
      cases hphase
  · rename_i h
    exact ⟨fun hphase hlive => h ⟨hphase, hlive⟩, fun hphase => absurd hphase hclosed,
      fun e hphase => absurd hphase (hfailed e)⟩

theorem Moves.waiting (h : s.Moves e t) (hs : s.Waiting) : t.Waiting := by
  cases h with
  | accepted hphase => exact waiting_of_serving hphase
  | @ended id hlive =>
    rw [finish_eq hlive]
    refine waiting_settle ?_ ?_
    · intro hphase
      rw [hs.closed hphase] at hlive
      cases hlive
    · intro e hphase
      rw [hs.failed e hphase] at hlive
      cases hlive
  | noticed _ _ => exact ⟨fun hphase => by simp [abort] at hphase, fun _ => rfl, fun _ _ => rfl⟩
  | shutdown _ _ => exact waiting_settle (by simp) (by simp)
  | expired _ => exact ⟨fun hphase => by simp [abort] at hphase, fun _ => rfl, fun _ _ => rfl⟩
  | _ => exact ⟨hs.draining, hs.closed, hs.failed⟩

end Loop

end Forward

end PortTunnel
