import PortTunnel.Launcher

/-!
# What a launcher leaves running

A worker that cannot be used is ended and waited for, so a launch adds a running process exactly
when it succeeds.

* `Processes.Fresh`: a new process gets a number that no process has.
* `Processes.running_start`, `Launcher.running_abandon`: the running processes after a start, and
  after a start that was taken back.
* `Launcher.running_of_fork_error`, `Launcher.running_of_fork_ok`: the running processes after a
  launch.
-/

namespace PortTunnel

open Machine (Condition Fate Processes Signal Started)

/-! ## Tables of processes -/

namespace Machine.Processes

/-- The number of the next process is not in use. -/
def Fresh (ps : Processes) : Prop := ∀ p ∈ ps.table, p.pid ≠ ps.nextPid

theorem running_congr {ps qs : Processes} (h : ps.table = qs.table) : ps.running = qs.running := by
  have hfind : ps.isRunning = qs.isRunning := by
    funext pid
    rw [isRunning, isRunning, find?, find?, h]
  rw [running, running, h, hfind]

theorem find?_start_self {ps : Processes} (h : ps.Fresh) (c : Condition) :
    (ps.start c).1.find? ps.nextPid = some c := by
  have hnone : ps.table.find? (fun p => decide (p.pid = ps.nextPid)) = none := by
    rw [List.find?_eq_none]
    intro p hp
    simpa using h p hp
  simp [find?, start, hnone]

theorem find?_start_of_ne {ps : Processes} {pid : Nat} (h : pid ≠ ps.nextPid) (c : Condition) :
    (ps.start c).1.find? pid = ps.find? pid := by
  simp [find?, start, h.symm]

theorem running_start {ps : Processes} (h : ps.Fresh) (c : Condition) :
    (ps.start c).1.running =
      ps.running ++ if (ps.start c).1.isRunning ps.nextPid then [ps.nextPid] else [] := by
  have hold : (ps.table.map (·.pid)).filter (ps.start c).1.isRunning = ps.running := by
    refine List.filter_congr fun pid hpid => ?_
    obtain ⟨p, hp, rfl⟩ := List.mem_map.mp hpid
    rw [isRunning, isRunning, find?_start_of_ne (h p hp)]
  rw [running, show (ps.start c).1.table = ps.table ++ [⟨ps.nextPid, c⟩] from rfl, List.map_append,
    List.filter_append, hold]
  cases hrunning : (ps.start c).1.isRunning ps.nextPid <;> simp [hrunning]

theorem table_reap_start {ps : Processes} (h : ps.Fresh) (c : Condition) :
    ((ps.start c).1.reap ps.nextPid).table = ps.table := by
  have hkept : ps.table.filter (fun p => decide (p.pid ≠ ps.nextPid)) = ps.table := by
    rw [List.filter_eq_self]
    exact fun p hp => decide_eq_true (h p hp)
  simpa [reap, start, List.filter_append] using hkept

/-- A signal to a process that has just been started changes what that process does and nothing
else. -/
theorem signal_start {ps : Processes} (h : ps.Fresh) (c : Condition) (s : Signal) :
    ∃ d, ((ps.start c).1.signal ps.nextPid s).1 = (ps.start d).1 := by
  unfold signal
  split
  · exact ⟨c, rfl⟩
  · refine ⟨receive s c, ?_⟩
    have hold : ps.table.map (fun p =>
        if p.pid = ps.nextPid then { p with condition := receive s p.condition } else p) =
          ps.table :=
      (List.map_congr_left fun p hp => if_neg (h p hp)).trans ps.table.map_id
    simp [start, hold]

end Machine.Processes

/-! ## Launches -/

namespace Launcher

variable {ps : Processes} {m : Means} {sys : System} {a : Assignment} {o : Options} {path : String}
  {started : Started} {worker : Worker} {e : Error}

theorem running_abandon (h : ps.Fresh) (c : Condition) :
    (abandon (ps.start c).1 ps.nextPid).running = ps.running := by
  obtain ⟨d, hsignal⟩ := Machine.Processes.signal_start h c .kill
  rw [abandon, hsignal]
  exact Machine.Processes.running_congr (Machine.Processes.table_reap_start h d)

/-- A worker can be used exactly if it is seen to be running. -/
theorem failure?_eq_none (h : ps.Fresh) (fate : Fate) :
    failure? (ps.start (condition fate)).1 ps.nextPid fate = none ↔
      ∃ ignores, fate = .running ignores := by
  have hfind := Machine.Processes.find?_start_self h (condition fate)
  cases fate with
  | running ignores =>
    simp only [condition] at hfind ⊢
    simp [failure?, Control.checkHealthy, hfind]
  | exited status => simp [failure?]
  | zombie status =>
    simp only [condition] at hfind ⊢
    simp [failure?, Control.checkHealthy, hfind]
  | hidden refusal => cases refusal <;> simp [failure?]

theorem start_eq (c : Condition) : ps.start c = ((ps.start c).1, ps.nextPid) := rfl

/-- A worker that cannot be used is ended and waited for. -/
theorem settle_unfit {reason : String}
    (hfailure : failure? (sys.processes.start (condition started.fate)).1 sys.processes.nextPid
      started.fate = some reason) :
    settle sys a path started =
      (⟨log sys.files path started.output,
        abandon (sys.processes.start (condition started.fate)).1 sys.processes.nextPid⟩,
        .error (.start reason path)) := by
  rw [settle, start_eq]
  dsimp only
  rw [hfailure]

/-- A worker that can be used is left running. -/
theorem settle_fit
    (hfailure : failure? (sys.processes.start (condition started.fate)).1 sys.processes.nextPid
      started.fate = none) :
    settle sys a path started =
      (⟨log sys.files path started.output, (sys.processes.start (condition started.fate)).1⟩,
        .ok ⟨sys.processes.nextPid, path, a.localHost, a.localPort⟩) := by
  rw [settle, start_eq]
  dsimp only
  rw [hfailure]

theorem running_of_settle_error (h : sys.processes.Fresh)
    (hsettle : (settle sys a path started).2 = .error e) :
    (settle sys a path started).1.processes.running = sys.processes.running := by
  cases hfailure : failure? (sys.processes.start (condition started.fate)).1
      sys.processes.nextPid started.fate with
  | some reason =>
    rw [settle_unfit hfailure]
    exact running_abandon h _
  | none =>
    rw [settle_fit hfailure] at hsettle
    cases hsettle

theorem running_of_settle_ok (h : sys.processes.Fresh)
    (hsettle : (settle sys a path started).2 = .ok worker) :
    (settle sys a path started).1.processes.running = sys.processes.running ++ [worker.pid] := by
  cases hfailure : failure? (sys.processes.start (condition started.fate)).1
      sys.processes.nextPid started.fate with
  | some reason =>
    rw [settle_unfit hfailure] at hsettle
    cases hsettle
  | none =>
    obtain ⟨ignores, hfate⟩ := (failure?_eq_none h started.fate).mp hfailure
    have hrunning : (sys.processes.start (condition started.fate)).1.isRunning
        sys.processes.nextPid := by
      rw [Machine.Processes.isRunning, Machine.Processes.find?_start_self h, hfate]
      rfl
    rw [settle_fit hfailure] at hsettle ⊢
    cases hsettle
    rw [Machine.Processes.running_start h, if_pos hrunning]

/-- A launch fails before there is a process, or it decides about the one that was started. -/
theorem fork_cases (m : Means) (sys : System) (a : Assignment) (o : Options) :
    (∃ files e, fork m sys a o = (⟨files, sys.processes⟩, .error e)) ∨
      ∃ files program started, attempt m files program a o = .ok started ∧
        fork m sys a o =
          settle ⟨files, sys.processes⟩ a (logPath (o.directory m.env) a) started := by
  unfold fork
  cases a.requirePort with
  | error e => exact .inl ⟨sys.files, e, rfl⟩
  | ok _ =>
    dsimp only
    cases openLog sys.files (o.directory m.env) a with
    | mk files opened =>
      cases opened with
      | error e => exact .inl ⟨files, e, rfl⟩
      | ok _ =>
        dsimp only
        cases equip m o with
        | error e => exact .inl ⟨files, e, rfl⟩
        | ok program =>
          dsimp only
          cases hstart : attempt m files program a o with
          | error f => exact .inl ⟨_, _, rfl⟩
          | ok started => exact .inr ⟨files, program, started, hstart, rfl⟩

/-- A launch that fails leaves no worker running, whatever became of it. -/
theorem running_of_fork_error (h : sys.processes.Fresh) (hfork : (fork m sys a o).2 = .error e) :
    (fork m sys a o).1.processes.running = sys.processes.running := by
  obtain ⟨files, _, hnone⟩ | ⟨files, program, started, -, hsettle⟩ := fork_cases m sys a o
  · rw [hnone]
  · rw [hsettle] at hfork ⊢
    have hfresh : (⟨files, sys.processes⟩ : System).processes.Fresh := h
    exact running_of_settle_error hfresh hfork

/-- A launch that succeeds leaves its worker running and no other. -/
theorem running_of_fork_ok (h : sys.processes.Fresh) (hfork : (fork m sys a o).2 = .ok worker) :
    (fork m sys a o).1.processes.running = sys.processes.running ++ [worker.pid] := by
  obtain ⟨files, _, hnone⟩ | ⟨files, program, started, -, hsettle⟩ := fork_cases m sys a o
  · rw [hnone] at hfork
    cases hfork
  · rw [hsettle] at hfork ⊢
    have hfresh : (⟨files, sys.processes⟩ : System).processes.Fresh := h
    exact running_of_settle_ok hfresh hfork

end Launcher

end PortTunnel
