import PortTunnel.Watchdog

/-!
# No target outlives its parent

A watchdog counts the polls that found the parent gone. The counter stops at the largest word
instead of starting again, and what comes of a signal is not looked at, so a poll is decided by
how many such polls there were and by nothing else.

* `Watchdog.toNat_count`: the counter.
* `Watchdog.signals_patrol`: the signals of polls, by what each of them found.
* `Watchdog.not_running_patrol`: a target that was ended by force is not running any more.
* `Watchdog.GoneParentSignals`: what holds of the polls of a parent that is gone for good.
* `Watchdog.patrol_signals_of_gone_parent`: it holds of every number of polls, on every machine.
-/

namespace PortTunnel

open Machine (Condition Processes Signal)

/-! ## Signals -/

namespace Machine.Processes

theorem find?_signal (ps : Processes) (pid other : Nat) (s : Signal) :
    (ps.signal pid s).1.find? other =
      if ps.guarded = false ∧ other = pid then (ps.find? other).map (receive s)
      else ps.find? other := by
  have hsame : (fun p : Process => decide (p.pid = other)) ∘
      (fun p => if p.pid = pid then { p with condition := receive s p.condition } else p) =
        fun p => decide (p.pid = other) := by
    funext p
    by_cases hp : p.pid = pid <;> simp [hp]
  unfold signal
  split
  · rename_i hguarded
    simp [hguarded]
  · rename_i hguarded
    simp only [find?, List.find?_map, hsame, Option.map_map]
    cases hfind : ps.table.find? (fun p => decide (p.pid = other)) with
    | none => simp
    | some p =>
      have hp : p.pid = other := by simpa using List.find?_some hfind
      by_cases hother : other = pid <;> simp [hguarded, hp, hother]

/-- No signal brings a process back. -/
theorem not_isRunning_signal {ps : Processes} {other : Nat} (h : ps.isRunning other = false)
    (pid : Nat) (s : Signal) : (ps.signal pid s).1.isRunning other = false := by
  rw [isRunning, find?_signal]
  by_cases hreached : ps.guarded = false ∧ other = pid
  · rw [if_pos hreached]
    rw [isRunning] at h
    cases hfind : ps.find? other with
    | none => rfl
    | some c =>
      cases c with
      | running ignores => simp [hfind] at h
      | zombie status => rfl
  · rw [if_neg hreached]
    exact h

end Machine.Processes

namespace Watchdog

variable {w : Watchdog} {misses : UInt32} {ps : Processes} {since : List (Processes → Processes)}

/-- Whatever came of a signal, a process is as it was, or the system has sent it. -/
theorem send_cases (ps : Processes) (pid : Nat) (s : Signal) :
    (ps.find? pid = none ∧ send ps pid s = (ps, .error (.noProcess pid))) ∨
      (∃ text, send ps pid s = (ps, .error (.io text))) ∨
      ps.guarded = false ∧ send ps pid s = ((ps.signal pid s).1, .ok ()) := by
  have hsend : ∃ refusal, send ps pid s = Control.send ps pid s refusal := by
    cases s <;> exact ⟨_, rfl⟩
  obtain ⟨refusal, hsend⟩ := hsend
  rw [hsend, Control.send]
  cases hfind : ps.find? pid with
  | none => exact .inl ⟨rfl, rfl⟩
  | some c =>
    cases hguarded : ps.guarded with
    | true => exact .inr (.inl ⟨refusal, by simp [Processes.signal, hguarded]⟩)
    | false => exact .inr (.inr ⟨rfl, by simp [Processes.signal, hguarded]⟩)

theorem not_isRunning_send {other : Nat} (h : ps.isRunning other = false) (pid : Nat) (s : Signal) :
    (send ps pid s).1.isRunning other = false := by
  obtain ⟨-, heq⟩ | ⟨text, heq⟩ | ⟨-, heq⟩ := send_cases ps pid s
  · rwa [heq]
  · rwa [heq]
  · rw [heq]
    exact Processes.not_isRunning_signal h pid s

/-- Whether the system did not send a signal to a process that is there. -/
def isRefusal : Except Error Unit → Bool
  | .error (.io _) => true
  | _ => false

/-- Who is told to end by force has ended, unless the system refuses to tell. -/
theorem not_isRunning_kill {pid : Nat} (h : isRefusal (send ps pid .kill).2 = false) :
    (send ps pid .kill).1.isRunning pid = false := by
  obtain ⟨hnone, heq⟩ | ⟨text, heq⟩ | ⟨hguarded, heq⟩ := send_cases ps pid .kill
  · rw [heq, Processes.isRunning, hnone]
  · rw [heq] at h
    cases h
  · rw [heq, Processes.isRunning, Processes.find?_signal, if_pos ⟨hguarded, rfl⟩]
    cases ps.find? pid with
    | none => rfl
    | some c => cases c <;> rfl

/-! ## Counting -/

/-- The largest number of misses that is told from those above it. -/
def maxMisses : Nat := 0xFFFFFFFF

theorem toNat_count (misses : UInt32) : (count misses).toNat = min (misses.toNat + 1) maxMisses := by
  have hlt : misses.toNat < 0x100000000 := misses.toNat_lt
  have hnext : (misses + 1).toNat = (misses.toNat + 1) % 0x100000000 := UInt32.toNat_add misses 1
  unfold count maxMisses
  split
  · rename_i hzero
    rw [hzero] at hnext
    have hnext : 0 = (misses.toNat + 1) % 0x100000000 := hnext
    omega
  · rename_i hne
    have hne : (misses + 1).toNat ≠ 0 := fun h => hne (UInt32.toNat_inj.mp h)
    omega

/-- What is sent at the poll that makes the misses this many. -/
def due (w : Watchdog) (k : Nat) : Signal :=
  if w.escalateAfter.toNat < min k maxMisses then .kill else .interrupt

theorem due_interrupt {k : Nat} (h : k ≤ w.escalateAfter.toNat ∨ w.escalateAfter.toNat = maxMisses) :
    w.due k = .interrupt := by
  rw [due, if_neg (by omega)]

theorem due_kill {k : Nat} (hlimit : w.escalateAfter.toNat < maxMisses)
    (h : w.escalateAfter.toNat < k) : w.due k = .kill := by
  rw [due, if_pos (by omega)]

theorem due_mono {j k : Nat} (h : j ≤ k) (hkill : w.due j = .kill) : w.due k = .kill := by
  unfold due at hkill ⊢
  split at hkill
  · rw [if_pos (by omega)]
  · cases hkill

/-- Beyond the largest word, the counter and the number of misses are told apart by no limit. -/
theorem due_count (k : Nat) :
    w.due ((count misses).toNat + k) = w.due (misses.toNat + (k + 1)) := by
  have hsame : min ((count misses).toNat + k) maxMisses =
      min (misses.toNat + (k + 1)) maxMisses := by
    rw [toNat_count]
    omega
  rw [due, due, hsame]

/-! ## One poll -/

theorem act_alive : w.act misses true = (misses, none) := rfl

theorem act_gone : w.act misses false = (count misses, some (w.due (misses.toNat + 1))) := by
  have hlimit : w.escalateAfter < count misses ↔
      w.escalateAfter.toNat < min (misses.toNat + 1) maxMisses := by
    rw [UInt32.lt_iff_toNat_lt, toNat_count]
  simp only [act, due, hlimit]
  rfl

/-- A poll sends nothing, or one signal to the target, and is done with it. -/
theorem poll_cases (w : Watchdog) (misses : UInt32) (ps : Processes) :
    w.poll misses ps = (misses, ⟨true, none⟩, ps) ∨
      w.poll misses ps = (count misses,
        ⟨false, some ⟨w.target, w.due (misses.toNat + 1),
          (send ps w.target (w.due (misses.toNat + 1))).2⟩⟩,
        (send ps w.target (w.due (misses.toNat + 1))).1) := by
  rw [poll]
  cases Control.isAlive ps w.parent with
  | true => exact .inl rfl
  | false =>
    rw [act_gone]
    exact .inr rfl

/-! ## Many polls -/

theorem left_patrol_cons (change : Processes → Processes) (rest : List (Processes → Processes)) :
    (w.patrol misses ps (change :: rest)).left =
      (w.patrol (w.poll misses (change ps)).1 (w.poll misses (change ps)).2.2 rest).left := rfl

theorem length_patrol : (w.patrol misses ps since).polls.length = since.length := by
  induction since generalizing misses ps with
  | nil => rfl
  | cons change rest ih => exact congrArg Nat.succ ih

/-- What was sent, and that it was sent to the target, is decided by what the polls found. -/
theorem signals_patrol :
    (w.patrol misses ps since).polls.map (fun p => p.sent.map fun s => (s.pid, s.signal)) =
      (w.watch misses ((w.patrol misses ps since).polls.map (·.alive))).map
        (Option.map fun s => (w.target, s)) := by
  induction since generalizing misses ps with
  | nil => rfl
  | cons change rest ih =>
    rw [patrol]
    obtain hpoll | hpoll := poll_cases w misses (change ps)
    · simp only [hpoll, List.map_cons, watch, act_alive, ih]
      rfl
    · simp only [hpoll, List.map_cons, watch, act_gone, ih]
      rfl

theorem watch_alive (alive : Nat) (rest : List Bool) :
    w.watch misses (List.replicate alive true ++ rest) =
      List.replicate alive none ++ w.watch misses rest := by
  induction alive with
  | zero => rfl
  | succ alive ih =>
    rw [List.replicate_succ, List.replicate_succ, List.cons_append, List.cons_append, watch, act_alive]
    exact congrArg (List.cons none) ih

theorem watch_gone (gone : Nat) :
    w.watch misses (List.replicate gone false) =
      (List.range gone).map fun i => some (w.due (misses.toNat + i + 1)) := by
  induction gone generalizing misses with
  | zero => rfl
  | succ gone ih =>
    rw [List.replicate_succ, watch, act_gone]
    dsimp only
    rw [ih, List.range_succ_eq_map, List.map_cons, List.map_map]
    exact congrArg (List.cons _) (List.map_congr_left fun i _ => congrArg some (due_count (i + 1)))

section

variable {alive gone : Nat} (h : (w.patrol 0 ps since).polls.map (·.alive) =
  List.replicate alive true ++ List.replicate gone false)

include h

/-- A poll before the parent is gone. -/
theorem poll_before {i : Nat} (hi : i < alive) :
    (w.patrol 0 ps since).polls[i]? = some ⟨true, none⟩ := by
  have hfound : ((w.patrol 0 ps since).polls.map (·.alive))[i]? = some true := by
    rw [h, List.getElem?_append_left (by simpa using hi), List.getElem?_replicate_of_lt hi]
  have hsent : ((w.patrol 0 ps since).polls.map fun p =>
      p.sent.map fun s => (s.pid, s.signal))[i]? = some none := by
    rw [signals_patrol, h, watch_alive, List.map_append, List.getElem?_append_left (by simpa using hi)]
    simp [hi]
  rw [List.getElem?_map] at hsent hfound
  obtain ⟨⟨found, sent⟩, hpoll, rfl⟩ := Option.map_eq_some_iff.mp hfound
  rw [hpoll] at hsent ⊢
  have hnone : sent = none := Option.map_eq_none_iff.mp (Option.some.inj hsent)
  rw [hnone]

/-- A poll from then on, by what it was due to send. -/
theorem poll_after {k : Nat} (hk : k < gone) :
    ∃ answer, (w.patrol 0 ps since).polls[alive + k]? =
      some ⟨false, some ⟨w.target, w.due (k + 1), answer⟩⟩ := by
  have hfound : ((w.patrol 0 ps since).polls.map (·.alive))[alive + k]? = some false := by
    rw [h, List.getElem?_append_right (by simp)]
    simp [hk]
  have hsent : ((w.patrol 0 ps since).polls.map fun p =>
      p.sent.map fun s => (s.pid, s.signal))[alive + k]? = some (some (w.target, w.due (k + 1))) := by
    rw [signals_patrol, h, watch_alive, List.map_append, List.getElem?_append_right (by simp),
      watch_gone]
    simp [hk]
  rw [List.getElem?_map] at hsent hfound
  obtain ⟨⟨found, sent⟩, hpoll, rfl⟩ := Option.map_eq_some_iff.mp hfound
  rw [hpoll] at hsent ⊢
  obtain ⟨⟨pid, signal, answer⟩, rfl, hboth⟩ :=
    Option.map_eq_some_iff.mp (Option.some.inj hsent)
  cases hboth
  exact ⟨answer, rfl⟩

end

/-! ## The end of a target -/

/-- Whatever happens on the machine by itself does not bring a process back. -/
def StaysDead (pid : Nat) (since : List (Processes → Processes)) : Prop :=
  ∀ change ∈ since, ∀ ps : Processes, ps.isRunning pid = false → (change ps).isRunning pid = false

/-- A poll that ended the target by force, without being refused. -/
def Poll.Kills (p : Poll) : Prop :=
  ∃ s ∈ p.sent, s.signal = .kill ∧ isRefusal s.answer = false

theorem not_isRunning_poll (h : ps.isRunning w.target = false) :
    (w.poll misses ps).2.2.isRunning w.target = false := by
  obtain hpoll | hpoll := poll_cases w misses ps
  · rwa [hpoll]
  · rw [hpoll]
    exact not_isRunning_send h _ _

theorem not_isRunning_of_kills (h : (w.poll misses ps).2.1.Kills) :
    (w.poll misses ps).2.2.isRunning w.target = false := by
  obtain ⟨s, hsent, hkill, hanswer⟩ := h
  obtain hpoll | hpoll := poll_cases w misses ps
  · rw [hpoll] at hsent
    cases hsent
  · rw [hpoll] at hsent ⊢
    cases hsent
    have hkill : w.due (misses.toNat + 1) = .kill := hkill
    dsimp only at hanswer ⊢
    rw [hkill] at hanswer ⊢
    exact not_isRunning_kill hanswer

theorem not_running_of_dead (hdead : StaysDead w.target since)
    (h : ps.isRunning w.target = false) :
    (w.patrol misses ps since).left.isRunning w.target = false := by
  induction since generalizing misses ps with
  | nil => exact h
  | cons change rest ih =>
    have hchanged := hdead change List.mem_cons_self ps h
    rw [left_patrol_cons]
    exact ih (fun c hc => hdead c (List.mem_cons_of_mem _ hc)) (not_isRunning_poll hchanged)

theorem not_running_patrol (hdead : StaysDead w.target since)
    (h : ∃ p ∈ (w.patrol misses ps since).polls, p.Kills) :
    (w.patrol misses ps since).left.isRunning w.target = false := by
  induction since generalizing misses ps with
  | nil => simp [patrol] at h
  | cons change rest ih =>
    have hlater : StaysDead w.target rest := fun c hc => hdead c (List.mem_cons_of_mem _ hc)
    obtain ⟨p, hp, hkills⟩ := h
    rw [left_patrol_cons]
    rcases List.mem_cons.mp hp with rfl | hp
    · exact not_running_of_dead hlater (not_isRunning_of_kills hkills)
    · exact ih hlater ⟨p, hp, hkills⟩

/-! ## The whole -/

/-- What holds of polls that found the parent alive a number of times, and gone from then on. -/
structure GoneParentSignals (w : Watchdog) (since : List (Processes → Processes)) (patrol : Patrol)
    (alive gone : Nat) : Prop where
  /-- No poll is the last one, whatever came of its signal. -/
  endless : patrol.polls.length = since.length
  /-- Nothing is sent at a poll that finds the parent alive. -/
  quiet : ∀ i < alive, patrol.polls[i]? = some ⟨true, none⟩
  /-- Of the polls that find the parent gone, the first ones interrupt the target, as many as the
  limit says. -/
  interrupted : ∀ k < gone, k + 1 ≤ w.escalateAfter.toNat ∨ w.escalateAfter.toNat = 0xFFFFFFFF →
    ∃ answer, patrol.polls[alive + k]? = some ⟨false, some ⟨w.target, .interrupt, answer⟩⟩
  /-- All polls after as many as the limit says end the target by force. -/
  killed : ∀ k < gone, w.escalateAfter.toNat < k + 1 → w.escalateAfter.toNat < 0xFFFFFFFF →
    ∃ answer, patrol.polls[alive + k]? = some ⟨false, some ⟨w.target, .kill, answer⟩⟩
  /-- After force there are no more interrupts. -/
  escalated : ∀ j k answer, j ≤ k → k < gone →
    patrol.polls[alive + j]? = some ⟨false, some ⟨w.target, .kill, answer⟩⟩ →
      ∃ later, patrol.polls[alive + k]? = some ⟨false, some ⟨w.target, .kill, later⟩⟩
  /-- What was sent is known from what was found, so no answer to a signal has a part in it. -/
  deaf : patrol.polls.map (fun p => p.sent.map (·.signal)) =
    List.replicate alive none ++ (List.range gone).map fun k => some (w.due (k + 1))
  /-- A target that stays dead once it is, and that is never kept from being ended by force, is not
  running after one poll of a gone parent more than the limit says. -/
  dead : w.escalateAfter.toNat < 0xFFFFFFFF → w.escalateAfter.toNat + 1 ≤ gone →
    StaysDead w.target since →
      (∀ p ∈ patrol.polls, ∀ s ∈ p.sent, s.signal = .kill → isRefusal s.answer = false) →
        patrol.left.isRunning w.target = false

theorem patrol_signals_of_gone_parent (w : Watchdog) (ps : Processes)
    (since : List (Processes → Processes)) (alive gone : Nat)
    (h : (w.patrol 0 ps since).polls.map (·.alive) =
      List.replicate alive true ++ List.replicate gone false) :
    GoneParentSignals w since (w.patrol 0 ps since) alive gone where
  endless := length_patrol
  quiet _ := poll_before h
  interrupted k hk hlimit := by
    rw [← due_interrupt hlimit]
    exact poll_after h hk
  killed k hk hlate hlimit := by
    rw [← due_kill hlimit hlate]
    exact poll_after h hk
  escalated j k answer hjk hk hj := by
    obtain ⟨_, hsent⟩ := poll_after h (Nat.lt_of_le_of_lt hjk hk)
    rw [hj] at hsent
    have hdue : w.due (j + 1) = .kill := by
      simp only [Option.some.injEq, Poll.mk.injEq, Sending.mk.injEq, true_and] at hsent
      exact hsent.1.symm
    rw [← due_mono (Nat.succ_le_succ hjk) hdue]
    exact poll_after h hk
  deaf := by
    have hsignals := congrArg (List.map (Option.map Prod.snd))
      (@signals_patrol w 0 ps since)
    rw [h, watch_alive, watch_gone] at hsignals
    simpa [Function.comp_def] using hsignals
  dead hlimit hgone hdead hfree := by
    obtain ⟨answer, hpoll⟩ := poll_after h (show w.escalateAfter.toNat < gone by omega)
    rw [due_kill hlimit (Nat.lt_succ_self _)] at hpoll
    have hmem := List.mem_of_getElem? hpoll
    exact not_running_patrol hdead ⟨_, hmem, _, rfl, rfl, hfree _ hmem _ rfl rfl⟩

/-! ## A target that ignores interrupts -/

/-- A process, and another one that ignores interrupts. -/
def stubborn : Processes := { table := [⟨1, .running false⟩, ⟨2, .running true⟩] }

/-- The first process ends, and the system sends no signals for a while. -/
def troubles : List (Processes → Processes) :=
  [id, fun ps => { (ps.signal 1 .kill).1 with guarded := true },
    fun ps => { ps with guarded := false }, id]

theorem staysDead_troubles (pid : Nat) : StaysDead pid troubles := by
  intro change hchange ps h
  simp only [troubles, List.mem_cons, List.not_mem_nil, or_false] at hchange
  rcases hchange with rfl | rfl | rfl | rfl
  · exact h
  · exact Processes.not_isRunning_signal h 1 .kill
  · exact h
  · exact h

theorem patrol_signals_of_gone_parent_stubborn :
    let w : Watchdog := ⟨1, 2, 1⟩
    GoneParentSignals w troubles (w.patrol 0 stubborn troubles) 1 3 ∧
      (w.patrol 0 stubborn troubles).left.isRunning 2 = false := by
  have h := patrol_signals_of_gone_parent ⟨1, 2, 1⟩ stubborn troubles 1 3 (by decide)
  exact ⟨h, h.dead (by decide) (by decide) (staysDead_troubles 2) (by decide)⟩

end Watchdog

end PortTunnel
