import PortTunnel.Proofs.Launcher
import PortTunnel.Proofs.Machine.Files

/-!
# The outcomes of a launch

A launch ends in one of six ways, and each of them leaves its own traces: in the processes, in
the log, and in what is reported.

* `Launcher.LogsIn`: which directory logs are in.
* `Launcher.Equipped`: a launch has a program and can hand over its log.
* `Launcher.Way`: the ways, with all that each of them leaves; `Launcher.fork_way`.
* `Launcher.addition`: what a launch adds to its log.
* `Launcher.ForkOutcomes`: what is owed to whoever starts a worker.
* `Launcher.fork_outcomes`: every launch owes it, whatever the log held and whatever becomes of the
  process.
-/

namespace PortTunnel.Launcher

open Machine (Environment Fate Fault Files Processes Started)
open Text.Utf8 (bytes decodeLossy)

/-! ## The directory of logs -/

/-- Which directory the logs of a launch are in, by the directory that its options name, if any. -/
inductive LogsIn (env : Environment) : Option String → String → Prop where
  | given (directory : String) : LogsIn env (some directory) directory
  | temporary {directory : String} (h : env.text? "TMPDIR" = some directory) :
      LogsIn env none directory
  | usual (h : env.get? (bytes "TMPDIR") = none) : LogsIn env none "/tmp"
  /-- Bytes that are no text are one as far as they go. -/
  | garbled {value : List UInt8} (h : env.get? (bytes "TMPDIR") = some value)
      (hgarbled : env.text? "TMPDIR" = none) : LogsIn env none (.ofList (decodeLossy value))

theorem logsIn_temporaryDirectory (env : Environment) :
    LogsIn env none (temporaryDirectory env) := by
  rw [temporaryDirectory, temporaryVariable]
  cases hvalue : env.get? (bytes "TMPDIR") with
  | none => exact .usual hvalue
  | some value =>
    have htext : env.text? "TMPDIR" = Text.Utf8.text? value := by
      rw [Environment.text?, hvalue, Option.bind_some]
    dsimp only
    cases hdirectory : Text.Utf8.text? value with
    | none => exact .garbled hvalue (htext.trans hdirectory)
    | some directory => exact .temporary (htext.trans hdirectory)

theorem logsIn_directory (o : Options) (env : Environment) :
    LogsIn env o.logDirectory (o.directory env) := by
  rw [Options.directory]
  cases o.logDirectory with
  | none => exact logsIn_temporaryDirectory env
  | some directory => exact .given directory

/-! ## Equipment -/

/-- The program of a worker is known, and its outputs can go to its log. -/
structure Equipped (m : Means) (o : Options) (program : String) : Prop where
  /-- The program is the one that is asked for, or else the one that is running. -/
  known : o.program = some program ∨ o.program = none ∧ m.executable = .ok program
  shared : ∀ output, m.duplicate output = .ok ()

section

variable {m : Means} {o : Options} {program : String}

theorem equip_of_equipped (h : Equipped m o program) : equip m o = .ok program := by
  have hchosen : chosenProgram m o = .ok program := by
    obtain hgiven | ⟨hnone, hrunning⟩ := h.known
    · rw [chosenProgram, hgiven]
    · rw [chosenProgram, hnone, hrunning]
      rfl
  simp only [equip, hchosen, h.shared]
  rfl

theorem chosenProgram_cases (m : Means) (o : Options) :
    (∃ program, chosenProgram m o = .ok program ∧
      (o.program = some program ∨ o.program = none ∧ m.executable = .ok program)) ∨
    ∃ text, chosenProgram m o = .error (.io text) ∧ o.program = none ∧
      m.executable = .error text := by
  rw [chosenProgram]
  cases o.program with
  | some program => exact .inl ⟨program, rfl, .inl rfl⟩
  | none =>
    cases m.executable with
    | ok program => exact .inl ⟨program, rfl, .inr ⟨rfl, rfl⟩⟩
    | error text => exact .inr ⟨text, rfl, rfl, rfl⟩

/-- A launch that is not equipped says what the system has said. -/
theorem equip_cases (m : Means) (o : Options) :
    (∃ program, equip m o = .ok program ∧ Equipped m o program) ∨
    ∃ text, equip m o = .error (.io text) ∧
      (o.program = none ∧ m.executable = .error text ∨
        ∃ output, m.duplicate output = .error text) := by
  obtain ⟨program, hchosen, hknown⟩ | ⟨text, hchosen, hrefused⟩ := chosenProgram_cases m o
  · cases hstandard : m.duplicate .standard with
    | error text =>
      refine .inr ⟨text, ?_, .inr ⟨.standard, hstandard⟩⟩
      simp only [equip, hchosen, hstandard]
      rfl
    | ok _ =>
      cases herrors : m.duplicate .errors with
      | error text =>
        refine .inr ⟨text, ?_, .inr ⟨.errors, herrors⟩⟩
        simp only [equip, hchosen, hstandard, herrors]
        rfl
      | ok _ =>
        have hequipped : Equipped m o program := by
          refine ⟨hknown, fun output => ?_⟩
          cases output
          · exact hstandard
          · exact herrors
        exact .inl ⟨program, equip_of_equipped hequipped, hequipped⟩
  · refine .inr ⟨text, ?_, .inl hrefused⟩
    rw [equip, hchosen]
    rfl

theorem equipped_of_equip (h : equip m o = .ok program) : Equipped m o program := by
  obtain ⟨other, hother, hequipped⟩ | ⟨text, hrefused, -⟩ := equip_cases m o
  · rw [h] at hother
    cases hother
    exact hequipped
  · rw [h] at hrefused
    cases hrefused

end

/-! ## The log -/

/-- What a launch adds to its log: the output of the process, or why there is none. -/
def addition (program : String) : Except Fault Started → List UInt8
  | .ok started => started.output
  | .error f => Text.Utf8.encode (s!"cannot spawn {program}: {f.message}" ++ "\n").toList

/-- Opening a log changes no file; the log is there afterwards if it could be opened. -/
theorem openLog_grown (files : Files) (directory : String) (a : Assignment) :
    files.Grown (openLog files directory a).1 ∧
      ∀ place, (openLog files directory a).1.held place = files.held place := by
  unfold openLog
  cases hmake : files.makeDirectories directory with
  | error f => exact ⟨.refl files, fun _ => rfl⟩
  | ok made =>
    obtain ⟨hgrown, hheld⟩ := Files.grown_makeDirectories hmake
    dsimp only
    cases happend : made.append (logPath directory a) [] with
    | error f => exact ⟨hgrown, hheld⟩
    | ok opened =>
      obtain ⟨hopened, place, hstands, hothers⟩ := Files.stands_of_append happend
      refine ⟨hgrown.trans hopened, fun other => ?_⟩
      rw [← hheld]
      by_cases hne : other = place
      · rw [hne, hstands.held, List.append_nil]
      · exact hothers other hne

section

variable {files opened : Files} {directory : String} {a : Assignment}

/-- A log that was opened is there, with what it held before. -/
theorem openLog_stands (h : openLog files directory a = (opened, .ok ())) :
    ∃ place, opened.Stands (logPath directory a) place (files.held place) := by
  obtain ⟨-, hheld⟩ := openLog_grown files directory a
  rw [h] at hheld
  unfold openLog at h
  split at h
  next => cases h
  next made hmake =>
    split at h
    next => cases h
    next after happend =>
      obtain ⟨-, place, hstands, -⟩ := Files.stands_of_append happend
      cases h
      refine ⟨place, ?_⟩
      rwa [← hheld place, hstands.held]

theorem openLog_error {e : Error} (h : openLog files directory a = (opened, .error e)) :
    ∃ text, e = .io text := by
  unfold openLog at h
  split at h
  next =>
    cases h
    exact ⟨_, rfl⟩
  next =>
    split at h
    next =>
      cases h
      exact ⟨_, rfl⟩
    next => cases h

/-- What is logged stands behind what the log held, and no other file changes. -/
theorem log_grown (h : openLog files directory a = (opened, .ok ())) (more : List UInt8) :
    files.Grown (log opened (logPath directory a) more) ∧
      ∃ place, (log opened (logPath directory a) more).Stands (logPath directory a) place
          (files.held place ++ more) ∧
        ∀ other, other ≠ place →
          (log opened (logPath directory a) more).held other = files.held other := by
  obtain ⟨hopened, hheld⟩ := openLog_grown files directory a
  rw [h] at hopened hheld
  obtain ⟨_, hlog⟩ := openLog_stands h
  obtain ⟨after, hmore⟩ := hlog.append more
  obtain ⟨hgrown, place, hstands, hothers⟩ := Files.stands_of_append hmore
  rw [log, hmore]
  rw [hheld place] at hstands
  exact ⟨hopened.trans hgrown, place, hstands,
    fun other hne => (hothers other hne).trans (hheld other)⟩

end

/-! ## Ways -/

/-- The ways in which a launch that logs in a directory can end. -/
inductive Way (m : Means) (sys : System) (a : Assignment) (o : Options) (directory : String) :
    System × Except Error Worker → Prop where
  | unresolved (hport : a.localPort = 0) :
    Way m sys a o directory
      (sys, .error (.config "local port must be resolved before launch"))
  | unopened (files : Files) (text : String) (hport : a.localPort ≠ 0)
      (hopen : openLog sys.files directory a = (files, .error (.io text))) :
    Way m sys a o directory (⟨files, sys.processes⟩, .error (.io text))
  | unequipped (files : Files) (text : String) (hport : a.localPort ≠ 0)
      (hopen : openLog sys.files directory a = (files, .ok ()))
      (hequip : equip m o = .error (.io text)) :
    Way m sys a o directory (⟨files, sys.processes⟩, .error (.io text))
  | refused (files : Files) (program : String) (f : Fault) (hport : a.localPort ≠ 0)
      (hopen : openLog sys.files directory a = (files, .ok ()))
      (hequip : equip m o = .ok program) (hstart : attempt m files program a o = .error f) :
    Way m sys a o directory
      (⟨log files (logPath directory a) (addition program (.error f)), sys.processes⟩,
        .error (.start s!"cannot spawn {program}: {f.message}" (logPath directory a)))
  | unfit (files : Files) (program : String) (started : Started) (reason : String)
      (hport : a.localPort ≠ 0) (hopen : openLog sys.files directory a = (files, .ok ()))
      (hequip : equip m o = .ok program) (hstart : attempt m files program a o = .ok started) :
    Way m sys a o directory
      (⟨log files (logPath directory a) (addition program (.ok started)),
        abandon (sys.processes.start (condition started.fate)).1 sys.processes.nextPid⟩,
        .error (.start reason (logPath directory a)))
  | up (files : Files) (program : String) (output : List UInt8) (ignores : Bool)
      (hport : a.localPort ≠ 0) (hopen : openLog sys.files directory a = (files, .ok ()))
      (hequip : equip m o = .ok program)
      (hstart : attempt m files program a o = .ok ⟨output, .running ignores⟩) :
    Way m sys a o directory
      (⟨log files (logPath directory a) output, (sys.processes.start (.running ignores)).1⟩,
        .ok ⟨sys.processes.nextPid, logPath directory a, a.localHost, a.localPort⟩)

theorem table_abandon {ps : Processes} (h : ps.Fresh) (fate : Fate) :
    (abandon (ps.start (condition fate)).1 ps.nextPid).table = ps.table := by
  obtain ⟨d, hsignal⟩ := Processes.signal_start h (condition fate) .kill
  rw [abandon, hsignal]
  exact Processes.table_reap_start h d

section

variable {m : Means} {sys : System} {a : Assignment} {o : Options} {directory program : String}
  {files : Files} {started : Started} {outcome : System × Except Error Worker}

theorem fork_unresolved (hport : a.localPort = 0) : fork m sys a o =
    (sys, .error (.config "local port must be resolved before launch")) := by
  rw [fork, Assignment.requirePort, if_pos hport]

theorem fork_unopened {e : Error} (hport : a.localPort ≠ 0)
    (hopen : openLog sys.files (o.directory m.env) a = (files, .error e)) :
    fork m sys a o = (⟨files, sys.processes⟩, .error e) := by
  rw [fork, Assignment.requirePort, if_neg hport]
  simp only [hopen]

theorem fork_unequipped {e : Error} (hport : a.localPort ≠ 0)
    (hopen : openLog sys.files (o.directory m.env) a = (files, .ok ()))
    (hequip : equip m o = .error e) : fork m sys a o = (⟨files, sys.processes⟩, .error e) := by
  rw [fork, Assignment.requirePort, if_neg hport]
  simp only [hopen, hequip]

theorem fork_refused {f : Fault} (hport : a.localPort ≠ 0)
    (hopen : openLog sys.files (o.directory m.env) a = (files, .ok ()))
    (hequip : equip m o = .ok program) (hstart : attempt m files program a o = .error f) :
    fork m sys a o =
      (⟨log files (logPath (o.directory m.env) a) (addition program (.error f)), sys.processes⟩,
        .error (.start s!"cannot spawn {program}: {f.message}"
          (logPath (o.directory m.env) a))) := by
  rw [fork, Assignment.requirePort, if_neg hport]
  simp only [hopen, hequip, hstart, addition]

theorem fork_started (hport : a.localPort ≠ 0)
    (hopen : openLog sys.files (o.directory m.env) a = (files, .ok ()))
    (hequip : equip m o = .ok program) (hstart : attempt m files program a o = .ok started) :
    fork m sys a o =
      settle ⟨files, sys.processes⟩ a (logPath (o.directory m.env) a) started := by
  rw [fork, Assignment.requirePort, if_neg hport]
  simp only [hopen, hequip, hstart]

theorem fork_up {output : List UInt8} {ignores : Bool} (h : sys.processes.Fresh)
    (hport : a.localPort ≠ 0)
    (hopen : openLog sys.files (o.directory m.env) a = (files, .ok ()))
    (hequip : equip m o = .ok program)
    (hstart : attempt m files program a o = .ok ⟨output, .running ignores⟩) :
    (fork m sys a o).2 = .ok ⟨sys.processes.nextPid, logPath (o.directory m.env) a, a.localHost,
      a.localPort⟩ := by
  have hfit := (failure?_eq_none h (.running ignores)).mpr ⟨ignores, rfl⟩
  rw [fork_started hport hopen hequip hstart,
    show settle ⟨files, sys.processes⟩ a _ _ = _ from settle_fit hfit]

theorem fork_unfit (h : sys.processes.Fresh) (hport : a.localPort ≠ 0)
    (hopen : openLog sys.files (o.directory m.env) a = (files, .ok ()))
    (hequip : equip m o = .ok program) (hstart : attempt m files program a o = .ok started)
    (hfate : ∀ ignores, started.fate ≠ .running ignores) :
    ∃ reason, (fork m sys a o).2 = .error (.start reason (logPath (o.directory m.env) a)) := by
  cases hfailure : failure? (sys.processes.start (condition started.fate)).1
      sys.processes.nextPid started.fate with
  | some reason =>
    rw [fork_started hport hopen hequip hstart,
      show settle ⟨files, sys.processes⟩ a _ started = _ from settle_unfit hfailure]
    exact ⟨reason, rfl⟩
  | none =>
    obtain ⟨ignores, hrunning⟩ := (failure?_eq_none h started.fate).mp hfailure
    exact absurd hrunning (hfate ignores)

/-- A process that was started is kept exactly if it is seen to be running. -/
theorem settle_way (h : sys.processes.Fresh) (hport : a.localPort ≠ 0)
    (hopen : openLog sys.files directory a = (files, .ok ()))
    (hequip : equip m o = .ok program) (hstart : attempt m files program a o = .ok started) :
    Way m sys a o directory (settle ⟨files, sys.processes⟩ a (logPath directory a) started) := by
  cases hfailure : failure? (sys.processes.start (condition started.fate)).1
      sys.processes.nextPid started.fate with
  | some reason =>
    rw [show settle ⟨files, sys.processes⟩ a _ started = _ from settle_unfit hfailure]
    exact .unfit files program started reason hport hopen hequip hstart
  | none =>
    obtain ⟨ignores, hfate⟩ := (failure?_eq_none h started.fate).mp hfailure
    rw [show settle ⟨files, sys.processes⟩ a _ started = _ from settle_fit hfailure]
    obtain ⟨output, fate⟩ := started
    cases hfate
    exact .up files program output ignores hport hopen hequip hstart

theorem fork_way (h : sys.processes.Fresh) :
    Way m sys a o (o.directory m.env) (fork m sys a o) := by
  by_cases hport : a.localPort = 0
  · rw [fork_unresolved hport]
    exact .unresolved hport
  cases hopen : openLog sys.files (o.directory m.env) a with
  | mk files opened =>
    cases opened with
    | error e =>
      obtain ⟨text, rfl⟩ := openLog_error hopen
      rw [fork_unopened hport hopen]
      exact .unopened files text hport hopen
    | ok _ =>
      obtain ⟨program, hequip, -⟩ | ⟨text, hequip, -⟩ := equip_cases m o
      · cases hstart : attempt m files program a o with
        | error f =>
          rw [fork_refused hport hopen hequip hstart]
          exact .refused files program f hport hopen hequip hstart
        | ok started =>
          rw [fork_started hport hopen hequip hstart]
          exact settle_way h hport hopen hequip hstart
      · rw [fork_unequipped hport hopen hequip]
        exact .unequipped files text hport hopen hequip

/-- Nothing that a file held is lost on any way. -/
theorem Way.grown (hway : Way m sys a o directory outcome) : sys.files.Grown outcome.1.files := by
  have hopened {files : Files} {opened : Except Error Unit}
      (hopen : openLog sys.files directory a = (files, opened)) : sys.files.Grown files := by
    have hgrown := (openLog_grown sys.files directory a).1
    rwa [hopen] at hgrown
  cases hway with
  | unresolved _ => exact .refl sys.files
  | unopened files text hport hopen => exact hopened hopen
  | unequipped files text hport hopen hequip => exact hopened hopen
  | refused files program f hport hopen hequip hstart =>
    have hgrown := (log_grown hopen (addition program (.error f))).1
    simpa only using hgrown
  | unfit files program started reason hport hopen hequip hstart =>
    have hgrown := (log_grown hopen (addition program (.ok started))).1
    simpa only using hgrown
  | up files program output ignores hport hopen hequip hstart =>
    have hgrown := (log_grown hopen output).1
    simpa only using hgrown

/-- Once there are a log and a program, the launch adds to the log on every way. -/
theorem Way.files_eq (hway : Way m sys a o directory outcome) (hport : a.localPort ≠ 0)
    (hopen : openLog sys.files directory a = (files, .ok ())) (hequip : equip m o = .ok program) :
    outcome.1.files =
      log files (logPath directory a) (addition program (attempt m files program a o)) := by
  have hsame {files' : Files} {program' : String}
      (hopened : openLog sys.files directory a = (files', .ok ()))
      (hequipped : equip m o = .ok program') : files' = files ∧ program' = program := by
    rw [hopen] at hopened
    rw [hequip] at hequipped
    cases hopened
    cases hequipped
    exact ⟨rfl, rfl⟩
  cases hway with
  | unresolved hnone => exact absurd hnone hport
  | unopened _ _ _ hfail =>
    rw [hopen] at hfail
    cases hfail
  | unequipped _ _ _ _ hfail =>
    rw [hequip] at hfail
    cases hfail
  | refused _ _ f _ hopened hequipped hstart =>
    obtain ⟨rfl, rfl⟩ := hsame hopened hequipped
    rw [hstart]
  | unfit _ _ started reason _ hopened hequipped hstart =>
    obtain ⟨rfl, rfl⟩ := hsame hopened hequipped
    rw [hstart]
  | up _ _ output ignores _ hopened hequipped hstart =>
    obtain ⟨rfl, rfl⟩ := hsame hopened hequipped
    simp only [hstart, addition]

/-- The log that a failed launch names can be read. -/
theorem Way.readable {reason path : String} (hway : Way m sys a o directory outcome)
    (herror : outcome.2 = .error (.start reason path)) :
    path = logPath directory a ∧ ∃ bytes, outcome.1.files.read path = .ok bytes := by
  cases hway with
  | unresolved _ => cases herror
  | unopened _ _ _ _ => cases herror
  | unequipped _ _ _ _ _ => cases herror
  | refused files program f hport hopen hequip hstart =>
    cases herror
    obtain ⟨-, place, hstands, -⟩ := log_grown hopen (addition program (.error f))
    exact ⟨rfl, _, by simpa only using hstands.read⟩
  | unfit files program started reason hport hopen hequip hstart =>
    cases herror
    obtain ⟨-, place, hstands, -⟩ := log_grown hopen (addition program (.ok started))
    exact ⟨rfl, _, by simpa only using hstands.read⟩
  | up _ _ _ _ _ _ _ _ => cases herror

theorem Way.gone {e : Error} (h : sys.processes.Fresh) (hway : Way m sys a o directory outcome)
    (herror : outcome.2 = .error e) : outcome.1.processes.table = sys.processes.table := by
  cases hway with
  | unresolved _ => rfl
  | unopened _ _ _ _ => rfl
  | unequipped _ _ _ _ _ => rfl
  | refused _ _ _ _ _ _ _ => rfl
  | unfit _ _ started _ _ _ _ _ => exact table_abandon h started.fate
  | up _ _ _ _ _ _ _ _ => cases herror

theorem Way.up_of_ok {worker : Worker} (hway : Way m sys a o directory outcome)
    (hok : outcome.2 = .ok worker) :
    a.localPort ≠ 0 ∧ ∃ files program output ignores,
      openLog sys.files directory a = (files, .ok ()) ∧ equip m o = .ok program ∧
        attempt m files program a o = .ok ⟨output, .running ignores⟩ ∧
        worker = ⟨sys.processes.nextPid, logPath directory a, a.localHost, a.localPort⟩ ∧
        outcome.1.processes = (sys.processes.start (.running ignores)).1 := by
  cases hway with
  | unresolved _ => cases hok
  | unopened _ _ _ _ => cases hok
  | unequipped _ _ _ _ _ => cases hok
  | refused _ _ _ _ _ _ _ => cases hok
  | unfit _ _ _ _ _ _ _ _ => cases hok
  | up files program output ignores hport hopen hequip hstart =>
    cases hok
    exact ⟨hport, files, program, output, ignores, hopen, hequip, hstart, rfl, rfl⟩

end

/-! ## The whole -/

/-- What is owed to whoever starts a worker whose log is in a directory, whatever becomes of it. -/
structure ForkOutcomes (m : Means) (sys : System) (a : Assignment) (o : Options)
    (directory : String) : Prop where
  /-- Logs are in the directory that is asked for, or else in the one for files that do not last. -/
  logsIn : LogsIn m.env o.logDirectory directory
  /-- Without a port nothing is touched. -/
  unresolved : a.localPort = 0 → fork m sys a o =
    (sys, .error (.config "local port must be resolved before launch"))
  /-- Without a log nothing is started, and the launch fails for what the system has said. -/
  unopened : ∀ files e, a.localPort ≠ 0 → openLog sys.files directory a = (files, .error e) →
    fork m sys a o = (⟨files, sys.processes⟩, .error e) ∧ ∃ text, e = .io text
  /-- Without a program, or without outputs, nothing is started and nothing is logged. -/
  unequipped : ∀ files, a.localPort ≠ 0 → openLog sys.files directory a = (files, .ok ()) →
    (∀ program, ¬ Equipped m o program) →
      ∃ text, fork m sys a o = (⟨files, sys.processes⟩, .error (.io text)) ∧
        (o.program = none ∧ m.executable = .error text ∨
          ∃ output, m.duplicate output = .error text)
  /-- A worker is up exactly if its process was started and is seen to be running at the end of its
  grace time. -/
  up : ∀ worker, (fork m sys a o).2 = .ok worker ↔
    a.localPort ≠ 0 ∧
      (∃ files program output ignores, openLog sys.files directory a = (files, .ok ()) ∧
        Equipped m o program ∧
        m.start files (command program a o m.env) (o.graceMs.getD a.graceMs) =
          .ok ⟨output, .running ignores⟩) ∧
      worker = ⟨sys.processes.nextPid, Machine.Path.join directory a.logName, a.localHost,
        a.localPort⟩
  /-- A launch that succeeds adds one process, which is running. -/
  one : ∀ worker, (fork m sys a o).2 = .ok worker → ∃ ignores,
    (fork m sys a o).1.processes.table =
      sys.processes.table ++ [⟨worker.pid, .running ignores⟩]
  /-- A process that cannot be started fails the launch. -/
  refused : ∀ files program f, a.localPort ≠ 0 →
    openLog sys.files directory a = (files, .ok ()) → Equipped m o program →
      m.start files (command program a o m.env) (o.graceMs.getD a.graceMs) = .error f →
        (fork m sys a o).2 = .error (.start s!"cannot spawn {program}: {f.message}"
          (Machine.Path.join directory a.logName))
  /-- A process that is not seen to be running fails the launch, whatever has become of it. -/
  unfit : ∀ files program started, a.localPort ≠ 0 →
    openLog sys.files directory a = (files, .ok ()) → Equipped m o program →
      m.start files (command program a o m.env) (o.graceMs.getD a.graceMs) = .ok started →
        (∀ ignores, started.fate ≠ .running ignores) →
          ∃ reason, (fork m sys a o).2 =
            .error (.start reason (Machine.Path.join directory a.logName))
  /-- The log that a failed launch names is there to be read. -/
  readable : ∀ reason path, (fork m sys a o).2 = .error (.start reason path) →
    path = Machine.Path.join directory a.logName ∧
      ∃ bytes, (fork m sys a o).1.files.read path = .ok bytes
  /-- No failure leaves a process behind, be it running or waiting to be waited for. -/
  gone : ∀ e, (fork m sys a o).2 = .error e →
    (fork m sys a o).1.processes.table = sys.processes.table
  /-- Every file keeps what it held. -/
  kept : ∀ place, sys.files.held place <+: (fork m sys a o).1.files.held place
  /-- The log has behind what it held what the launch adds, and no other file has more than
  before. -/
  logged : ∀ files program, a.localPort ≠ 0 →
    openLog sys.files directory a = (files, .ok ()) → Equipped m o program →
      ∃ place, (fork m sys a o).1.files.Stands (Machine.Path.join directory a.logName) place
          (sys.files.held place ++ addition program
            (m.start files (command program a o m.env) (o.graceMs.getD a.graceMs))) ∧
        ∀ other, other ≠ place → (fork m sys a o).1.files.held other = sys.files.held other

theorem fork_outcomes (m : Means) {sys : System} (h : sys.processes.Fresh) (a : Assignment)
    (o : Options) : ∃ directory, ForkOutcomes m sys a o directory := by
  have hway : Way m sys a o (o.directory m.env) (fork m sys a o) := fork_way h
  refine ⟨o.directory m.env, ?_⟩
  constructor
  case logsIn => exact logsIn_directory o m.env
  case unresolved => exact fork_unresolved
  case unopened =>
    exact fun _ _ hport hopen => ⟨fork_unopened hport hopen, openLog_error hopen⟩
  case unequipped =>
    intro files hport hopen hnone
    obtain ⟨program, -, hequipped⟩ | ⟨text, hequip, hrefused⟩ := equip_cases m o
    · exact absurd hequipped (hnone program)
    · exact ⟨text, fork_unequipped hport hopen hequip, hrefused⟩
  case up =>
    intro worker
    constructor
    · intro hok
      obtain ⟨hport, files, program, output, ignores, hopen, hequip, hstart, hworker, -⟩ :=
        hway.up_of_ok hok
      exact ⟨hport, ⟨files, program, output, ignores, hopen, equipped_of_equip hequip, hstart⟩,
        hworker⟩
    · rintro ⟨hport, ⟨files, program, output, ignores, hopen, hequipped, hstart⟩, rfl⟩
      exact fork_up h hport hopen (equip_of_equipped hequipped) hstart
  case one =>
    intro worker hok
    obtain ⟨-, -, -, -, ignores, -, -, -, rfl, hprocesses⟩ := hway.up_of_ok hok
    exact ⟨ignores, congrArg Processes.table hprocesses⟩
  case refused =>
    intro files program f hport hopen hequipped hstart
    exact congrArg Prod.snd (fork_refused hport hopen (equip_of_equipped hequipped) hstart)
  case unfit =>
    exact fun _ _ _ hport hopen hequipped =>
      fork_unfit h hport hopen (equip_of_equipped hequipped)
  case readable => exact fun _ _ => hway.readable
  case gone => exact fun _ => hway.gone h
  case kept => exact hway.grown.held
  case logged =>
    intro files program hport hopen hequipped
    rw [hway.files_eq hport hopen (equip_of_equipped hequipped)]
    exact (log_grown hopen _).2

def databaseTunnel : Assignment :=
  .ssh ⟨"localhost", 18080, "bastion", 22, "u", .password "p", "db/1", 5432⟩

/-- A machine on which an earlier worker of the same tunnel has left its log. -/
def visited : System :=
  ⟨{ entries := [(["var", "tunnels", "ssh-tunnel-db_1-5432.log"], .file [104, 105, 10] false)] },
    { table := [⟨7, .zombie (.code 1)⟩] }⟩

/-- A machine on which the running program can no longer be started. -/
def deleted : Means where
  start _ _ _ := .error .notFound
  env := Text.TextTable.ofList [("TMPDIR", "/scratch")]
  executable := .ok "/opt/tunnels"

theorem fork_outcomes_visited :
    (∃ directory, ForkOutcomes deleted visited databaseTunnel
      { parentPid := 1, logDirectory := some "/var/tunnels" } directory) ∧
    (fork deleted visited databaseTunnel
      { parentPid := 1, logDirectory := some "/var/tunnels" }).1.files.read
        "/var/tunnels/ssh-tunnel-db_1-5432.log" =
      .ok (Text.Utf8.encode
        "hi\ncannot spawn /opt/tunnels: No such file or directory (os error 2)\n".toList) :=
  ⟨fork_outcomes deleted (by simp [Processes.Fresh, visited]) databaseTunnel
    { parentPid := 1, logDirectory := some "/var/tunnels" }, by rfl⟩

/-- Without a directory of its own, the log is in the one that the environment names. -/
example : (fork deleted visited databaseTunnel { parentPid := 1 }).2 =
    .error (.start "cannot spawn /opt/tunnels: No such file or directory (os error 2)"
      "/scratch/ssh-tunnel-db_1-5432.log") := by
  rfl

end PortTunnel.Launcher
