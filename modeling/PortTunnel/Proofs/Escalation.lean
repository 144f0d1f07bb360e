import PortTunnel.Proofs.Watchdog

/-!
# What comes before force

A watchdog counts the polls that found the parent gone, and a poll that finds it alive takes none of
them back. So a target is ended by force after a number of misses, whether or not they were in a
row. The two are the same for a parent that is gone once and for all; where its number comes back,
force may come earlier than misses in a row would let it.

* `Watchdog.missesAmong`, `Watchdog.Consecutive`: misses, and misses in a row.
* `Watchdog.watch_getElem?`: what a poll sends, by the misses up to it.
* `Watchdog.Forces`: a poll that tells the target to end by force.
* `Watchdog.ForceByMisses`: what is known of polls from the ones that do.
* `Watchdog.patrol_forces_by_misses`: it holds whatever the polls found.
* `Watchdog.forced_after_return`: a parent that comes back does not start the count again.
-/

namespace PortTunnel.Watchdog

open Machine (Processes Signal)

variable {w : Watchdog} {misses : UInt32} {ps : Processes} {since : List (Processes → Processes)}
  {seen : List Bool} {limit i : Nat}

/-! ## Misses -/

/-- How many of the first polls found the parent gone. -/
def missesAmong (seen : List Bool) (polls : Nat) : Nat := (seen.take polls).count false

/-- A poll found the parent gone, and so did as many polls right before it as are asked for. -/
def Consecutive (seen : List Bool) (before i : Nat) : Prop :=
  before ≤ i ∧ ∀ j ≤ before, seen[i - j]? = some false

instance (seen : List Bool) (before i : Nat) : Decidable (Consecutive seen before i) :=
  inferInstanceAs (Decidable (before ≤ i ∧ ∀ j ≤ before, seen[i - j]? = some false))

theorem missesAmong_succ (seen : List Bool) (n : Nat) :
    missesAmong seen (n + 1) = missesAmong seen n + if seen[n]? = some false then 1 else 0 := by
  rw [missesAmong, missesAmong, List.take_add_one, List.count_append]
  cases seen[n]? with
  | none => rfl
  | some alive => cases alive <;> rfl

theorem missesAmong_cons (alive : Bool) (rest : List Bool) (n : Nat) :
    missesAmong (alive :: rest) (n + 1) =
      missesAmong rest n + if alive then 0 else 1 := by
  rw [missesAmong, List.take_succ_cons, List.count_cons]
  cases alive <;> rfl

theorem missesAmong_le (seen : List Bool) (n : Nat) : missesAmong seen n ≤ n :=
  Nat.le_trans List.count_le_length (List.length_take_le n seen)

/-- No more polls miss the parent than there are. -/
theorem missesAmong_add_le (seen : List Bool) (n more : Nat) :
    missesAmong seen (n + more) ≤ missesAmong seen n + more := by
  induction more with
  | zero => exact Nat.le_refl _
  | succ more ih =>
    rw [← Nat.add_assoc, missesAmong_succ]
    split <;> omega

theorem missesAmong_mono {m n : Nat} (h : m ≤ n) : missesAmong seen m ≤ missesAmong seen n := by
  induction h with
  | refl => exact Nat.le_refl _
  | step _ ih =>
    rw [missesAmong_succ]
    omega

theorem exists_miss {n : Nat} (h : missesAmong seen n ≠ 0) : ∃ k < n, seen[k]? = some false := by
  induction n with
  | zero => exact absurd rfl h
  | succ n ih =>
    by_cases hlast : seen[n]? = some false
    · exact ⟨n, Nat.lt_succ_self n, hlast⟩
    · rw [missesAmong_succ, if_neg hlast] at h
      obtain ⟨k, hk, hmissed⟩ := ih h
      exact ⟨k, Nat.lt_succ_of_lt hk, hmissed⟩

/-- Polls in a row are counted each. -/
theorem Consecutive.lt_missesAmong (h : Consecutive seen limit i) :
    limit < missesAmong seen (i + 1) := by
  induction limit generalizing i with
  | zero =>
    have hgone : seen[i]? = some false := h.2 0 (Nat.le_refl 0)
    rw [missesAmong_succ, if_pos hgone]
    omega
  | succ limit ih =>
    obtain ⟨hlate, hgone⟩ := h
    cases i with
    | zero => omega
    | succ i =>
      have hbefore : Consecutive seen limit i := by
        refine ⟨by omega, fun j hj => ?_⟩
        have hj' := hgone (j + 1) (by omega)
        rwa [Nat.add_sub_add_right] at hj'
      have hlast : seen[i + 1]? = some false := hgone 0 (Nat.zero_le _)
      rw [missesAmong_succ, if_pos hlast]
      exact Nat.succ_lt_succ (ih hbefore)

/-- Misses that are enough and yet not in a row: the parent was gone, and was found alive since. -/
theorem exists_return (hin : i < seen.length) (hmany : limit < missesAmong seen (i + 1))
    (hrow : ¬ Consecutive seen limit i) :
    ∃ gone back, gone < back ∧ back ≤ i ∧ i ≤ back + limit ∧
      seen[gone]? = some false ∧ seen[back]? = some true := by
  have hlate : limit ≤ i := by
    have := missesAmong_le seen (i + 1)
    omega
  obtain ⟨j, hj⟩ := Classical.not_forall.mp fun hall => hrow ⟨hlate, hall⟩
  obtain ⟨hj, hback⟩ := Classical.not_imp.mp hj
  have hback : seen[i - j]? = some true := by
    rw [List.getElem?_eq_getElem (show i - j < seen.length by omega)] at hback ⊢
    simpa using hback
  -- The polls from there on are too few for all the misses.
  have hbefore : missesAmong seen (i - j) ≠ 0 := by
    have hrest := missesAmong_add_le seen (i - j + 1) j
    rw [missesAmong_succ, if_neg (by simp [hback]), show i - j + 1 + j = i + 1 by omega] at hrest
    omega
  obtain ⟨gone, hgone, hmissed⟩ := exists_miss hbefore
  exact ⟨gone, i - j, hgone, Nat.sub_le i j, by omega, hmissed, hback⟩

/-! ## Signals -/

theorem due_eq_kill_iff {k : Nat} :
    w.due k = .kill ↔ w.escalateAfter.toNat < min k maxMisses := by
  unfold due
  split
  · rename_i hlate
    exact iff_of_true rfl hlate
  · rename_i hearly
    exact iff_of_false Signal.noConfusion hearly

theorem watch_getElem? (w : Watchdog) (misses : UInt32) (seen : List Bool) (i : Nat) :
    (w.watch misses seen)[i]? = seen[i]?.map fun alive =>
      if alive then none else some (w.due (misses.toNat + missesAmong seen (i + 1))) := by
  induction seen generalizing misses i with
  | nil => rfl
  | cons alive rest ih =>
    rw [watch, missesAmong_cons]
    cases alive with
    | true =>
      cases i with
      | zero => rfl
      | succ i => exact ih misses i
    | false =>
      rw [act_gone]
      cases i with
      | zero => rfl
      | succ i =>
        simp only [List.getElem?_cons_succ, ih, due_count]
        rfl

/-- What the polls found, one after another: whether the parent was alive. -/
def Patrol.found (patrol : Patrol) : List Bool := patrol.polls.map (·.alive)

/-- A poll tells the target to end by force. -/
def Forces (w : Watchdog) (patrol : Patrol) (i : Nat) : Prop :=
  ∃ alive answer, patrol.polls[i]? = some ⟨alive, some ⟨w.target, .kill, answer⟩⟩

/-- The signal of a poll, by what the polls up to it found. -/
theorem sent_patrol (i : Nat) :
    (w.patrol 0 ps since).polls[i]?.map (fun p => p.sent.map fun s => (s.pid, s.signal)) =
      (w.patrol 0 ps since).polls[i]?.map fun p =>
        if p.alive then none
        else some (w.target, w.due (missesAmong (w.patrol 0 ps since).found (i + 1))) := by
  rw [← List.getElem?_map, signals_patrol, List.getElem?_map, watch_getElem?, List.getElem?_map,
    Option.map_map, Option.map_map]
  refine congrArg (Option.map · _) (funext fun p => ?_)
  rcases p with ⟨_ | _, sent⟩
  · exact congrArg (fun k => some (w.target, w.due k)) (Nat.zero_add _)
  · rfl

theorem forces_iff :
    w.Forces (w.patrol 0 ps since) i ↔
      (w.patrol 0 ps since).found[i]? = some false ∧
        w.escalateAfter.toNat < min (missesAmong (w.patrol 0 ps since).found (i + 1)) maxMisses := by
  have hsent := @sent_patrol w ps since i
  rw [← due_eq_kill_iff, Forces, show (w.patrol 0 ps since).found[i]? = _ from List.getElem?_map]
  cases hpoll : (w.patrol 0 ps since).polls[i]? with
  | none => simp
  | some poll =>
    obtain ⟨alive, sent⟩ := poll
    rw [hpoll] at hsent
    cases alive with
    | true =>
      have hnone : sent = none := by simpa using hsent
      simp [hnone]
    | false =>
      obtain ⟨⟨pid, signal, answer⟩, rfl, hboth⟩ :=
        Option.map_eq_some_iff.mp (Option.some.inj hsent)
      obtain ⟨rfl, rfl⟩ := Prod.mk.inj hboth
      simp

theorem forces_of_consecutive (hlimit : w.escalateAfter.toNat < maxMisses)
    (h : Consecutive (w.patrol 0 ps since).found w.escalateAfter.toNat i) :
    w.Forces (w.patrol 0 ps since) i := by
  have hmany := h.lt_missesAmong
  exact forces_iff.mpr ⟨h.2 0 (Nat.zero_le _), Nat.lt_min.mpr ⟨hmany, hlimit⟩⟩

theorem exists_return_of_forces (hforce : w.Forces (w.patrol 0 ps since) i)
    (hrow : ¬ Consecutive (w.patrol 0 ps since).found w.escalateAfter.toNat i) :
    ∃ gone back, gone < back ∧ back ≤ i ∧ i ≤ back + w.escalateAfter.toNat ∧
      (w.patrol 0 ps since).found[gone]? = some false ∧
        (w.patrol 0 ps since).found[back]? = some true := by
  obtain ⟨hgone, hmany⟩ := forces_iff.mp hforce
  obtain ⟨hin, -⟩ := List.getElem?_eq_some_iff.mp hgone
  exact exists_return hin (Nat.lt_min.mp hmany).1 hrow

/-! ## The whole -/

/-- What is known of polls from those that end the target by force. -/
structure ForceByMisses (w : Watchdog) (patrol : Patrol) : Prop where
  /-- Force is decided by all the misses so far, as far as they can be counted. -/
  forced : ∀ i, w.Forces patrol i ↔ patrol.found[i]? = some false ∧
    w.escalateAfter.toNat < min (missesAmong patrol.found (i + 1)) maxMisses
  /-- One miss in a row more than the limit brings force. -/
  consecutive : w.escalateAfter.toNat < maxMisses → ∀ i,
    Consecutive patrol.found w.escalateAfter.toNat i → w.Forces patrol i
  /-- Where force comes after fewer misses in a row, the parent has been gone before, and has come
  back. -/
  returned : ∀ i, w.Forces patrol i → ¬ Consecutive patrol.found w.escalateAfter.toNat i →
    ∃ gone back, gone < back ∧ back ≤ i ∧ i ≤ back + w.escalateAfter.toNat ∧
      patrol.found[gone]? = some false ∧ patrol.found[back]? = some true
  /-- Where a parent that is gone never comes back, force comes exactly after one miss in a row more
  than the limit. -/
  steady : w.escalateAfter.toNat < maxMisses →
    (∀ gone back : Nat, gone < back → patrol.found[gone]? = some false →
      patrol.found[back]? ≠ some true) →
        ∀ i, w.Forces patrol i ↔ Consecutive patrol.found w.escalateAfter.toNat i
  /-- No miss is forgiven a parent that comes back: once as many as the limit are used up, the next
  one brings force, whatever was found in between. -/
  unforgiving : w.escalateAfter.toNat < maxMisses → ∀ back i : Nat, back ≤ i →
    w.escalateAfter.toNat ≤ missesAmong patrol.found back → patrol.found[i]? = some false →
      w.Forces patrol i

theorem patrol_forces_by_misses (w : Watchdog) (ps : Processes)
    (since : List (Processes → Processes)) : ForceByMisses w (w.patrol 0 ps since) where
  forced _ := forces_iff
  consecutive hlimit _ := forces_of_consecutive hlimit
  returned _ := exists_return_of_forces
  steady hlimit hgone i := by
    refine ⟨fun hforce => Classical.byContradiction fun hrow => ?_, forces_of_consecutive hlimit⟩
    obtain ⟨gone, back, hlt, -, -, hmissed, hback⟩ := exists_return_of_forces hforce hrow
    exact hgone gone back hlt hmissed hback
  unforgiving hlimit back i hle hused hmissed := by
    have hkept := @missesAmong_mono (w.patrol 0 ps since).found _ _ hle
    refine forces_iff.mpr ⟨hmissed, Nat.lt_min.mpr ⟨?_, hlimit⟩⟩
    rw [missesAmong_succ, if_pos hmissed]
    omega

/-! ## A parent that comes back -/

/-- A process ends and is waited for. Later its number goes to another one, which ends as well. -/
def returns : List (Processes → Processes) :=
  [fun ps => ps.reap 1, id, id,
    fun ps => { ps with table := ps.table ++ [⟨1, .running false⟩] },
    fun ps => ps.reap 1]

/-- By default, four misses in a row are asked for. Here three and one are enough. -/
theorem forced_after_return :
    let w : Watchdog := { parent := 1, target := 2 }
    let patrol := w.patrol 0 stubborn returns
    patrol.found = [false, false, false, true, false] ∧ w.Forces patrol 4 ∧
      ¬ Consecutive patrol.found w.escalateAfter.toNat 4 ∧ patrol.left.isRunning 2 = false :=
  ⟨by decide, ⟨false, .ok (), by rfl⟩, by decide, by decide⟩

end PortTunnel.Watchdog
