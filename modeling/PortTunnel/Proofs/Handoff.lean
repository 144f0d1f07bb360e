import PortTunnel.Proofs.Launch
import PortTunnel.Proofs.Launched
import PortTunnel.Proofs.Payload
import PortTunnel.Proofs.Text.Utf8

/-!
# The handoff to a worker

What a launch writes into the environment and the arguments of a worker is what the worker reads
there, and reading it takes it away, so that no process that the worker starts sees a payload.

* `Machine.Environment`: look-up after a variable was set or removed.
* `Launch.Handoff`: what a launch hands to its worker, and what the worker makes of it.
* `Launch.HandoffRemoved`: what is left of any environment in which a process looked for a launch.
* `Launch.handoff_read_back`: every launch settles the one, and every process the other.
-/

namespace PortTunnel

open Machine (Environment Starter)

/-! ## Variables -/

namespace Machine.Environment

variable {env : Environment} {name other value : List UInt8}

@[simp]
theorem entries_remove : (env.remove name).entries = env.entries.filter (·.1 ≠ name) := rfl

@[simp]
theorem entries_set :
    (env.set name value).entries = env.entries.filter (·.1 ≠ name) ++ [(name, value)] := rfl

theorem get?_remove_self : (env.remove name).get? name = none := by
  rw [get?, Option.map_eq_none_iff, List.find?_eq_none]
  intro e he
  have hne := (List.mem_filter.mp he).2
  simpa using hne

theorem get?_remove_of_ne (h : other ≠ name) : (env.remove name).get? other = env.get? other := by
  rw [get?, get?, entries_remove, List.find?_filter]
  congr 2
  funext e
  by_cases heq : e.1 = other <;> simp [heq, h]

theorem get?_set_self : (env.set name value).get? name = some value := by
  have hnone : (env.entries.filter (·.1 ≠ name)).find? (·.1 = name) = none := by
    simp
  rw [get?, entries_set, List.find?_append, hnone]
  simp

theorem get?_set_of_ne (h : other ≠ name) : (env.set name value).get? other = env.get? other := by
  have hadded : [(name, value)].find? (·.1 = other) = none := by simp [h.symm]
  have hkept : (env.remove name).get? other = env.get? other := get?_remove_of_ne h
  rw [← hkept, get?, get?, entries_set, List.find?_append, hadded, Option.or_none,
    entries_remove]

theorem remove_set_self : (env.set name value).remove name = env.remove name := by
  ext1
  simp [List.filter_append]

theorem remove_comm : (env.remove name).remove other = (env.remove other).remove name := by
  ext1
  simp [Bool.and_comm]

end Machine.Environment

/-! ## Texts of variables -/

namespace Text.Utf8

theorem text?_bytes (s : String) : text? (bytes s) = some s := by
  rw [text?, bytes, decode_encode]
  exact congrArg some s.ofList_toList

end Text.Utf8

namespace Launch

open Launcher (Means Options System attempt command equip fork logPath openLog)
open Text.Utf8 (bytes decodeLossy text?_bytes)

theorem lossy_marker (k : Kind) : String.ofList (decodeLossy (bytes k.marker)) = k.marker := by
  cases k <;> decide +kernel

theorem role_ne_payload : bytes roleVariable ≠ bytes payloadVariable := by decide +kernel

/-! ## Writing and reading -/

/-- An assignment is what its text tells a worker of its kind. -/
theorem tasked_encode (a : Assignment) : Tasked a.kind (some (Payload.encode a)) a := by
  have hnone : ∀ c ∈ ([] : List Char), Text.isBlank c := nofun
  refine ⟨Payload.encode a, rfl, ?_, rfl⟩
  simpa using Payload.decode_between_blanks a hnone hnone

/-- A worker that is told what a launch tells it knows what it was started for. -/
theorem parse_handoff (a : Assignment) (n : UInt32) :
    parse a.kind.marker (some (Payload.encode a)) (some (toString n.toNat)) =
      .ok ⟨a.kind, a, n⟩ :=
  parse_of_verdict (.accepted a.kind a (toString n.toNat) n rfl (tasked_encode a) rfl
    (Decimal.Word.numeral_toString n.toNat))

/-! ## Environments of workers -/

variable (a : Assignment) (env : Environment)

theorem get?_environment_role :
    (environment a env).get? (bytes roleVariable) = some (bytes a.kind.marker) := by
  rw [environment, Environment.get?_set_of_ne role_ne_payload, Environment.get?_set_self]

theorem get?_environment_payload :
    (environment a env).get? (bytes payloadVariable) = some (bytes (Payload.encode a)) :=
  Environment.get?_set_self

theorem text?_environment_payload :
    (environment a env).text? payloadVariable = some (Payload.encode a) := by
  rw [Environment.text?, get?_environment_payload, Option.bind_some, text?_bytes]

theorem get?_environment_of_ne {name : List UInt8} (hrole : name ≠ bytes roleVariable)
    (hpayload : name ≠ bytes payloadVariable) : (environment a env).get? name = env.get? name := by
  rw [environment, Environment.get?_set_of_ne hpayload, Environment.get?_set_of_ne hrole]

/-- An environment without the two variables of a handoff. -/
def cleared (env : Environment) : Environment :=
  (env.remove (bytes roleVariable)).remove (bytes payloadVariable)

theorem cleared_environment : cleared (environment a env) = cleared env := by
  rw [cleared, environment, Environment.remove_comm, Environment.remove_set_self,
    Environment.remove_comm, Environment.remove_set_self, cleared]

theorem ofEnvironment_of_none {args : List String} (h : env.get? (bytes roleVariable) = none) :
    ofEnvironment env args = (env, .ok none) := by
  rw [ofEnvironment, h]

theorem ofEnvironment_of_some {args : List String} {role : List UInt8}
    (h : env.get? (bytes roleVariable) = some role) :
    ofEnvironment env args = (cleared env,
      (parse (.ofList (decodeLossy role)) (env.text? payloadVariable) args.head?).map some) := by
  rw [ofEnvironment, h]
  rfl

/-- A worker reads what its launch has written. -/
theorem ofEnvironment_environment (n : UInt32) :
    ofEnvironment (environment a env) (arguments n) =
      (cleared env, .ok (some ⟨a.kind, a, n⟩)) := by
  rw [ofEnvironment_of_some (environment a env) (get?_environment_role a env),
    cleared_environment, text?_environment_payload, lossy_marker]
  exact congrArg (fun launch => (cleared env, launch.map some)) (parse_handoff a n)

/-! ## The whole -/

/-- What a launch hands to its worker, and what the worker makes of it. -/
structure Handoff (m : Means) (a : Assignment) (o : Options) : Prop where
  /-- Nothing but the one command is ever started. -/
  alone : ∀ sys program, equip m o = .ok program → fork m sys a o =
    fork { m with start := fun files _ ms => m.start files (command program a o m.env) ms } sys a o
  /-- Without a program, or without outputs, no command at all is started. -/
  idle : ∀ sys e start, equip m o = .error e →
    fork { m with start := start } sys a o = fork m sys a o
  /-- The one command is started once there are a port, a log and a program. -/
  started : ∀ sys files program f, a.localPort ≠ 0 →
    openLog sys.files (o.directory m.env) a = (files, .ok ()) → equip m o = .ok program →
      m.start files (command program a o m.env) (o.graceMs.getD a.graceMs) = .error f →
        (fork m sys a o).2 = .error (.start s!"cannot spawn {program}: {f.message}"
          (logPath (o.directory m.env) a))
  /-- The only argument is the process that the worker belongs to. -/
  arguments : ∀ program, (command program a o m.env).args = [toString o.parentPid.toNat]
  /-- The role says which kind of tunnel the worker carries. -/
  role : ∀ program,
    (command program a o m.env).env.get? (bytes roleVariable) = some (bytes a.kind.marker)
  /-- The payload is the assignment in its written form. -/
  payload : ∀ program,
    (command program a o m.env).env.get? (bytes payloadVariable) = some (bytes (Payload.encode a))
  /-- All other variables are those of the front end. -/
  others : ∀ program name, name ≠ bytes roleVariable → name ≠ bytes payloadVariable →
    (command program a o m.env).env.get? name = m.env.get? name
  /-- The worker finds its launch, and is left with what the launch has started from. -/
  read : ∀ program,
    ofEnvironment (command program a o m.env).env (command program a o m.env).args =
      ((m.env.remove (bytes roleVariable)).remove (bytes payloadVariable),
        .ok (some ⟨a.kind, a, o.parentPid⟩))

/-- What is left of an environment in which a process looked for a launch. -/
structure HandoffRemoved (env : Environment) (args : List String) : Prop where
  /-- A process that is no worker keeps its environment. -/
  untouched : env.get? (bytes roleVariable) = none → ofEnvironment env args = (env, .ok none)
  /-- A worker is left without both variables, whether or not there is a launch in them. -/
  gone : env.get? (bytes roleVariable) ≠ none →
    (ofEnvironment env args).2 ≠ .ok none ∧
      (ofEnvironment env args).1.get? (bytes roleVariable) = none ∧
      (ofEnvironment env args).1.get? (bytes payloadVariable) = none
  /-- No other variable is touched. -/
  others : ∀ name, name ≠ bytes roleVariable → name ≠ bytes payloadVariable →
    (ofEnvironment env args).1.get? name = env.get? name

section

variable {m : Means} {sys : System} {a : Assignment} {o : Options} {program : String}

theorem fork_alone (hequip : equip m o = .ok program) : fork m sys a o =
    fork { m with start := fun files _ ms => m.start files (command program a o m.env) ms }
      sys a o := by
  -- The program is known before anything is started, and it does not depend on what is started.
  have hother : equip { m with
      start := fun files _ ms => m.start files (command program a o m.env) ms } o = .ok program :=
    hequip
  simp only [fork, hequip, hother, attempt]

theorem fork_idle {e : Error} (start : Starter) (hequip : equip m o = .error e) :
    fork { m with start := start } sys a o = fork m sys a o := by
  have hother : equip { m with start := start } o = .error e := hequip
  simp only [fork, hequip, hother]

end

theorem handoff_command (m : Means) (a : Assignment) (o : Options) : Handoff m a o where
  alone _ _ := fork_alone
  idle _ _ := fork_idle
  started _ _ _ _ hport hopen hequip hstart :=
    congrArg Prod.snd (Launcher.fork_refused hport hopen hequip hstart)
  arguments _ := rfl
  role _ := get?_environment_role a m.env
  payload _ := get?_environment_payload a m.env
  others _ _ := get?_environment_of_ne a m.env
  read _ := ofEnvironment_environment a m.env o.parentPid

theorem get?_cleared_of_ne {name : List UInt8} (hrole : name ≠ bytes roleVariable)
    (hpayload : name ≠ bytes payloadVariable) : (cleared env).get? name = env.get? name := by
  rw [cleared, Environment.get?_remove_of_ne hpayload, Environment.get?_remove_of_ne hrole]

theorem handoffRemoved_ofEnvironment (env : Environment) (args : List String) :
    HandoffRemoved env args := by
  cases hrole : env.get? (bytes roleVariable) with
  | none =>
    have hnone : ofEnvironment env args = (env, .ok none) := ofEnvironment_of_none env hrole
    refine ⟨fun _ => hnone, fun h => absurd hrole h, fun name _ _ => ?_⟩
    rw [hnone]
  | some role =>
    have hsome : ofEnvironment env args = (cleared env,
        (parse (.ofList (decodeLossy role)) (env.text? payloadVariable) args.head?).map some) :=
      ofEnvironment_of_some env hrole
    constructor
    · intro h
      rw [hrole] at h
      cases h
    · intro _
      rw [hsome]
      refine ⟨?_, ?_, Environment.get?_remove_self⟩
      · cases parse (.ofList (decodeLossy role)) (env.text? payloadVariable) args.head? <;> nofun
      · rw [cleared, Environment.get?_remove_of_ne role_ne_payload, Environment.get?_remove_self]
    · intro name hname hother
      rw [hsome, get?_cleared_of_ne env hname hother]

theorem handoff_read_back :
    (∀ m a o, Handoff m a o) ∧ ∀ env args, HandoffRemoved env args :=
  ⟨handoff_command, handoffRemoved_ofEnvironment⟩

end Launch

end PortTunnel
