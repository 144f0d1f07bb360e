import Mathlib.Data.List.Nodup
import PortTunnel.Lifecycle.Shared

/-!
# Whole runs of a lifecycle

However many parties hold a lifecycle, and in whatever order they ask for something, it goes
forward through the stages.

* `Stage.rank`: the place of a stage on its way; every step that is admitted goes up.
* `Stage.Way`: stages that are entered one after another, and what holds of them.
* `Lifecycle.Call.Sound`: what one call does and tells; `Lifecycle.apply_eq` is the step.
* `Lifecycle.Chained`: calls that take up where the one before left off, and what holds of them.
* `Lifecycle.run_stageHistory`: what holds after every run of clones and calls.
-/

namespace PortTunnel

/-! ## The way of a tunnel -/

/-- The place of a stage. The two ends share the last place: none of them comes after the other. -/
def Stage.rank : Stage → Nat
  | .created => 0
  | .starting => 1
  | .ready => 2
  | .running => 3
  | .closing => 4
  | .closed => 5
  | .failed => 5

theorem Stage.rank_le (a : Stage) : a.rank ≤ 5 := by
  cases a <;> decide

theorem Stage.rank_lt_of_admits {a b : Stage} (h : a.admits b) : a.rank < b.rank := by
  revert h
  cases a <;> cases b <;> decide

theorem Stage.not_admits_of_isTerminal {a : Stage} (h : a.isTerminal) (b : Stage) : ¬ a.admits b := by
  revert h
  cases a <;> cases b <;> decide

namespace Stage

/-- Stages that are entered one after another, from a first stage to a last one. -/
inductive Way : Stage → List Stage → Stage → Prop where
  | nil (a : Stage) : Way a [] a
  | cons {a b t : Stage} {stages : List Stage} (hstep : a.admits b) (hrest : Way b stages t) :
    Way a (b :: stages) t

variable {a b t : Stage} {stages : List Stage}

theorem Way.advancing (h : Way a stages t) : (a :: stages).Pairwise (·.rank < ·.rank) := by
  induction h with
  | nil a => exact List.pairwise_singleton ..
  | @cons a b t stages hstep _ ih =>
    have hlt := rank_lt_of_admits hstep
    refine List.pairwise_cons.mpr ⟨?_, ih⟩
    intro stage hstage
    rcases List.mem_cons.mp hstage with rfl | hmem
    · exact hlt
    · exact Nat.lt_trans hlt ((List.pairwise_cons.mp ih).1 stage hmem)

theorem Way.nodup (h : Way a stages t) : (a :: stages).Nodup := by
  refine h.advancing.imp ?_
  rintro a b hlt rfl
  exact absurd hlt (Nat.lt_irrefl _)

/-- The places are few, so the changes are. -/
theorem Way.length_le (h : Way a stages t) : a.rank + stages.length ≤ t.rank := by
  induction h with
  | nil a => exact Nat.le_refl _
  | cons hstep _ ih =>
    have hlt := rank_lt_of_admits hstep
    rw [List.length_cons]
    omega

theorem Way.eq_of_isTerminal (h : Way a stages t) (ha : a.isTerminal) : t = a := by
  cases h with
  | nil a => rfl
  | cons hstep _ => exact absurd hstep (not_admits_of_isTerminal ha _)

/-- Stages that cannot be left out between a stage and the closed one. -/
def route : Stage → List Stage
  | .created => [.starting, .ready, .closing]
  | .starting => [.ready, .closing]
  | .ready => [.closing]
  | .running => [.closing]
  | _ => []

theorem sublist_route (h : a.admits b) (hb : b ≠ .failed) : (route a).Sublist (b :: route b) := by
  revert h hb
  cases a <;> cases b <;> decide

theorem Way.route_sublist (h : Way a stages t) (ht : t = .closed) : (route a).Sublist stages := by
  induction h with
  | nil a =>
    subst ht
    exact List.Sublist.slnil
  | @cons a b t stages hstep hrest ih =>
    -- A failed tunnel does not get to the closed stage, so no step of the way leaves the route.
    have hb : b ≠ .failed := by
      rintro rfl
      cases ht.symm.trans (hrest.eq_of_isTerminal rfl)
    exact (sublist_route hstep hb).trans ((ih ht).cons_cons _)

end Stage

namespace Lifecycle

/-! ## One call -/

/-- The stage that an operation asks for. -/
def Operation.target : Operation → Stage
  | .transition next => next
  | .fail => .failed
  | .beginClose => .closing

/-- What the one who asks is told if the step is admitted. -/
def Operation.admitted : Operation → Answer
  | .transition _ => .result (.ok ())
  | .fail => .silence
  | .beginClose => .begun true

/-- What the one who asks is told if it is not. -/
def Operation.refused (current : Stage) : Operation → Answer
  | .transition next =>
    .result (.error (.invalidState s!"cannot move from {current.name} to {next.name}"))
  | .fail => .silence
  | .beginClose => .begun false

theorem apply_eq (l : Lifecycle) (op : Operation) :
    l.apply op = if l.stage.admits op.target then (⟨op.target⟩, op.admitted)
      else (l, op.refused l.stage) := by
  by_cases h : l.stage.admits op.target
  · have hstep : l.transition op.target = (⟨op.target⟩, .ok ()) := if_pos h
    rw [if_pos h]
    cases op with
    | transition next => rw [apply, show l.transition next = _ from hstep]; rfl
    | fail => rw [apply, fail, show l.transition .failed = _ from hstep]; rfl
    | beginClose => rw [apply, beginClose, show l.transition .closing = _ from hstep]; rfl
  · have hstep : l.transition op.target = (l, .error (refusal l.stage op.target)) := if_neg h
    rw [if_neg h]
    cases op with
    | transition next => rw [apply, show l.transition next = _ from hstep]; rfl
    | fail => rw [apply, fail, show l.transition .failed = _ from hstep]; rfl
    | beginClose => rw [apply, beginClose, show l.transition .closing = _ from hstep]; rfl

/-- A call does what it asks for if that is admitted, and nothing otherwise; what it tells agrees
with what it did. -/
structure Call.Sound (c : Call) : Prop where
  admitted : c.before.admits c.operation.target →
    c.after = c.operation.target ∧ c.answer = c.operation.admitted
  refused : ¬ c.before.admits c.operation.target →
    c.after = c.before ∧ c.answer = c.operation.refused c.before

theorem sound_apply (holder : Nat) (l : Lifecycle) (op : Operation) :
    Call.Sound ⟨holder, op, l.stage, (l.apply op).2, (l.apply op).1.stage⟩ := by
  rw [apply_eq]
  constructor
  · intro h
    simp only [if_pos h]
    exact ⟨trivial, trivial⟩
  · intro h
    simp only [if_neg h]
    exact ⟨trivial, trivial⟩

/-- Whether a call changed the stage. -/
def Call.changes (c : Call) : Bool := c.before ≠ c.after

/-- Whether a call was told that it began to close. -/
def Call.begins (c : Call) : Bool :=
  match c.answer with
  | .begun admitted => admitted
  | _ => false

theorem Call.Sound.admits_of_changes {c : Call} (h : c.Sound) (hchanges : c.changes) :
    c.before.admits c.after := by
  by_cases hadmits : c.before.admits c.operation.target
  · rwa [(h.admitted hadmits).1]
  · rw [Call.changes, (h.refused hadmits).1] at hchanges
    simp at hchanges

theorem Call.Sound.changes_of_begins {c : Call} (h : c.Sound) (hbegins : c.begins) :
    c.changes ∧ c.after = .closing := by
  obtain ⟨holder, op, before, answer, after⟩ := c
  by_cases hadmits : before.admits op.target
  · obtain ⟨hafter, hanswer⟩ := h.admitted hadmits
    cases op with
    | beginClose =>
      refine ⟨?_, hafter⟩
      have hlt := Stage.rank_lt_of_admits hadmits
      rw [Call.changes, hafter, decide_eq_true_eq]
      rintro heq
      exact absurd (heq ▸ hlt) (Nat.lt_irrefl _)
    | _ => simp_all [Call.begins, Operation.admitted]
  · obtain ⟨-, hanswer⟩ := h.refused hadmits
    cases op <;> simp_all [Call.begins, Operation.refused]

/-! ## Calls one after another -/

/-- Each call finds the stage that the one before has left. -/
inductive Chained : Stage → List Call → Stage → Prop where
  | nil (s : Stage) : Chained s [] s
  | cons {c : Call} {cs : List Call} {t : Stage} (hsound : c.Sound) (hrest : Chained c.after cs t) :
    Chained c.before (c :: cs) t

/-- The stage after some calls. -/
def stageAfter (start : Stage) (calls : List Call) : Stage :=
  (calls.getLast?.map (·.after)).getD start

/-- The stages that calls have entered. -/
def entered (calls : List Call) : List Stage := (calls.filter (·.changes)).map (·.after)

variable {s t : Stage} {calls : List Call}

theorem entered_cons (c : Call) (cs : List Call) :
    entered (c :: cs) = if c.changes then c.after :: entered cs else entered cs := by
  rw [entered, List.filter_cons]
  split <;> rfl

theorem after_eq_of_not_changes {c : Call} (h : ¬ c.changes) : c.after = c.before := by
  rw [Call.changes, decide_eq_true_eq, Classical.not_not] at h
  exact h.symm

theorem Chained.before_eq {c : Call} (h : Chained s (c :: calls) t) : c.before = s := by
  cases h
  rfl

theorem Chained.stageAfter (h : Chained s calls t) : stageAfter s calls = t := by
  induction h with
  | nil s => rfl
  | @cons c cs t _ _ ih =>
    rw [← ih, Lifecycle.stageAfter, Lifecycle.stageAfter, List.getLast?_cons]
    cases cs.getLast? <;> rfl

/-- What is entered is entered step by step: calls that change nothing do not count. -/
theorem Chained.way (h : Chained s calls t) : s.Way (entered calls) t := by
  induction h with
  | nil s => exact .nil s
  | @cons c cs t hsound _ ih =>
    rw [entered_cons]
    by_cases hchanges : c.changes
    · rw [if_pos hchanges]
      exact .cons (hsound.admits_of_changes hchanges) ih
    · rw [if_neg hchanges, ← after_eq_of_not_changes hchanges]
      exact ih

/-- Nothing follows an end. -/
theorem Chained.ended (h : Chained s calls t) (hs : s.isTerminal) :
    t = s ∧ ∀ c ∈ calls, c.after = c.before := by
  induction h with
  | nil s => exact ⟨rfl, fun c hc => absurd hc List.not_mem_nil⟩
  | @cons c cs t hsound _ ih =>
    have hsame : c.after = c.before := (hsound.refused (Stage.not_admits_of_isTerminal hs _)).1
    obtain ⟨hlast, hrest⟩ := ih (hsame ▸ hs)
    refine ⟨hlast.trans hsame, ?_⟩
    intro d hd
    rcases List.mem_cons.mp hd with rfl | hmem
    · exact hsame
    · exact hrest d hmem

/-- Calls that were told they began to close entered closing. -/
theorem Chained.countP_begins_le (h : Chained s calls t) :
    calls.countP (·.begins) ≤ (entered calls).count .closing := by
  induction h with
  | nil s => exact Nat.le_refl _
  | @cons c cs t hsound _ ih =>
    rw [List.countP_cons, entered_cons]
    by_cases hbegins : c.begins
    · obtain ⟨hchanges, hafter⟩ := hsound.changes_of_begins hbegins
      rw [if_pos hbegins, if_pos hchanges, hafter, List.count_cons_self]
      omega
    · rw [if_neg hbegins]
      split
      · exact Nat.le_trans ih List.count_le_count_cons
      · exact ih

theorem Chained.begun (h : Chained s calls t) : calls.countP (·.begins) ≤ 1 := by
  have hnodup : (entered calls).Nodup := (List.nodup_cons.mp h.way.nodup).2
  exact Nat.le_trans h.countP_begins_le (List.nodup_iff_count_le_one.mp hnodup _)

/-- Calls that are split in two: the second part begins where the first has ended. -/
theorem Chained.split {first second : List Call} (h : Chained s (first ++ second) t) :
    Chained s first (Lifecycle.stageAfter s first) ∧
      Chained (Lifecycle.stageAfter s first) second t := by
  induction first generalizing s with
  | nil => exact ⟨.nil s, h⟩
  | cons c first ih =>
    cases h with
    | cons hsound hrest =>
      obtain ⟨hfirst, hsecond⟩ := ih hrest
      have hlast : Lifecycle.stageAfter c.before (c :: first) = Lifecycle.stageAfter c.after first :=
        (Chained.cons hsound hfirst).stageAfter
      rw [hlast]
      exact ⟨.cons hsound hfirst, hsecond⟩

/-! ## Several holders -/

namespace Shared

/-- All holders hold this lifecycle. -/
structure Common (s : Shared) (l : Lifecycle) : Prop where
  cells : s.cells = [l]
  holders : ∀ address ∈ s.holders, address = 0

variable {s : Shared} {l : Lifecycle}

theorem common_start (l : Lifecycle) : (start l).Common l where
  cells := rfl
  holders _ h := List.mem_singleton.mp h

theorem Common.address (h : s.Common l) {holder : Nat} (hholder : holder < s.holders.length) :
    s.holders[holder]? = some 0 := by
  rw [List.getElem?_eq_getElem hholder, h.holders _ (List.getElem_mem hholder)]

theorem Common.observe (h : s.Common l) {holder : Nat} (hholder : holder < s.holders.length) :
    s.observe holder = some l.stage := by
  rw [Shared.observe, lifecycle?, h.address hholder, Option.bind_some, h.cells]
  rfl

theorem Common.clone (h : s.Common l) (holder : Nat) : (s.clone holder).Common l := by
  unfold Shared.clone
  split
  · rename_i address haddress
    refine ⟨h.cells, ?_⟩
    intro other hother
    rcases List.mem_append.mp hother with hold | hnew
    · exact h.holders other hold
    · rw [List.mem_singleton.mp hnew]
      exact h.holders address (List.mem_of_getElem? haddress)
  · exact h

theorem length_clone (s : Shared) (holder : Nat) : (s.clone holder).holders.length =
    if holder < s.holders.length then s.holders.length + 1 else s.holders.length := by
  unfold Shared.clone
  by_cases h : holder < s.holders.length
  · rw [List.getElem?_eq_getElem h, if_pos h]
    simp
  · rw [List.getElem?_eq_none (Nat.le_of_not_lt h), if_neg h]

theorem Common.call (h : s.Common l) {holder : Nat} (hholder : holder < s.holders.length)
    (op : Operation) :
    s.call holder op = (⟨[(l.apply op).1], s.holders⟩,
      some ⟨holder, op, l.stage, (l.apply op).2, (l.apply op).1.stage⟩) := by
  rw [Shared.call, h.address hholder, h.cells]
  rfl

theorem call_of_absent {holder : Nat} (h : ¬ holder < s.holders.length) (op : Operation) :
    s.call holder op = (s, none) := by
  rw [Shared.call, List.getElem?_eq_none (Nat.le_of_not_lt h)]

end Shared

/-- The calls among events whose holder is there, given how many holders there are at first. -/
def requests : Nat → List Event → List (Nat × Operation)
  | _, [] => []
  | n, .clone holder :: events => requests (if holder < n then n + 1 else n) events
  | n, .call holder op :: events =>
    if holder < n then (holder, op) :: requests n events else requests n events

/-- A run keeps all holders on one lifecycle, and records every call that is made. -/
theorem Shared.Common.run {s : Shared} {l : Lifecycle} (h : s.Common l) (events : List Event) :
    ∃ last, (s.run events).1.Common last ∧ Chained l.stage (s.run events).2 last.stage ∧
      (s.run events).2.map (fun c => (c.holder, c.operation)) =
        requests s.holders.length events := by
  induction events generalizing s l with
  | nil => exact ⟨l, h, .nil _, rfl⟩
  | cons e events ih =>
    cases e with
    | clone holder =>
      obtain ⟨last, hcommon, hchained, hrecord⟩ := ih (h.clone holder)
      rw [Shared.length_clone] at hrecord
      exact ⟨last, hcommon, hchained, hrecord⟩
    | call holder op =>
      by_cases hholder : holder < s.holders.length
      · have hnext : Shared.Common ⟨[(l.apply op).1], s.holders⟩ (l.apply op).1 := ⟨rfl, h.holders⟩
        obtain ⟨last, hcommon, hchained, hrecord⟩ := ih hnext
        rw [Shared.run, h.call hholder op, requests, if_pos hholder]
        exact ⟨last, hcommon, .cons (sound_apply holder l op) hchained,
          congrArg ((holder, op) :: ·) hrecord⟩
      · obtain ⟨last, hcommon, hchained, hrecord⟩ := ih h
        rw [Shared.run, Shared.call_of_absent hholder, requests, if_neg hholder]
        exact ⟨last, hcommon, hchained, hrecord⟩

/-- What has become of a lifecycle in any number of hands, after any calls. -/
structure StageHistory (start : Stage) (events : List Event) (s : Shared) (calls : List Call) :
    Prop where
  /-- All holders see the stage that the last call has left. -/
  agreed : ∀ holder < s.holders.length, s.observe holder = some (stageAfter start calls)
  /-- Each operation that was asked for is on record, in its turn. -/
  recorded : calls.map (fun c => (c.holder, c.operation)) = requests 1 events
  /-- Each call finds the stage that the one before it has left. -/
  continued : ∀ first c second, calls = first ++ c :: second → c.before = stageAfter start first
  sound : ∀ c ∈ calls, c.Sound
  /-- Every stage that is entered is farther on than the one before. -/
  advancing : (start :: entered calls).Pairwise (·.rank < ·.rank)
  once : (start :: entered calls).Nodup
  few : (entered calls).length ≤ 5
  /-- Nothing changes after an end. -/
  ended : ∀ first second, calls = first ++ second → (stageAfter start first).isTerminal →
    ∀ c ∈ second, c.after = c.before
  /-- Closing is begun by one call at most. -/
  begun : calls.countP (·.begins) ≤ 1
  /-- A new lifecycle that is closed has gone all the way. -/
  passed : start = .created → stageAfter start calls = .closed →
    [Stage.starting, .ready, .closing].Sublist (entered calls)

theorem Chained.sound {s t : Stage} {calls : List Call} (h : Chained s calls t) :
    ∀ c ∈ calls, c.Sound := by
  induction h with
  | nil s => exact fun c hc => absurd hc List.not_mem_nil
  | cons hsound _ ih =>
    intro d hd
    rcases List.mem_cons.mp hd with rfl | hmem
    · exact hsound
    · exact ih d hmem

theorem run_stageHistory (start : Stage) (events : List Event) :
    StageHistory start events ((Shared.start ⟨start⟩).run events).1
      ((Shared.start ⟨start⟩).run events).2 := by
  obtain ⟨last, hcommon, hchained, hrecord⟩ := (Shared.common_start ⟨start⟩).run events
  generalize (Shared.start ⟨start⟩).run events = after at hcommon hchained hrecord ⊢
  obtain ⟨s, calls⟩ := after
  have hlast : stageAfter start calls = last.stage := hchained.stageAfter
  constructor
  · intro holder hholder
    rw [hlast]
    exact hcommon.observe hholder
  · exact hrecord
  · rintro first c second rfl
    obtain ⟨-, hsecond⟩ := Chained.split hchained
    exact hsecond.before_eq
  · exact hchained.sound
  · exact hchained.way.advancing
  · exact hchained.way.nodup
  · have hle := hchained.way.length_le
    have htop := last.stage.rank_le
    omega
  · rintro first second rfl hterminal
    exact ((Chained.split hchained).2.ended hterminal).2
  · exact hchained.begun
  · rintro rfl hclosed
    exact hchained.way.route_sublist (hlast.symm.trans hclosed)

end Lifecycle

end PortTunnel
