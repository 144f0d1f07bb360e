import PortTunnel.Cluster.Toolkit
import PortTunnel.Open
import PortTunnel.Proofs.Launched

/-!
# Launches without a port

A launch without a local port is refused by an error of its own. Whatever is done before a launch
ends in other errors, and so does a launch that has a port.

* `unresolved`: the error.
* `Raises`: the errors in which an attempt may end.
* `prepare_ne`, `Launcher.fork_ne`: where settings are prepared, and where a worker is launched.
* `Cluster.Worded`: the errors of the services of a cluster, by how they are put.
* `Cluster.reach_worded`, `Cluster.selector_worded`, `Cluster.pods_worded`: whatever the library for
  clusters says, it is put so.
-/

namespace PortTunnel

/-- The error of a launch without a local port. -/
def unresolved : Error := .config "local port must be resolved before launch"

/-! ## Attempts -/

/-- An attempt that ends in errors of one kind only, if it fails. -/
def Raises {α : Type} (P : Error → Prop) (attempt : Except Error α) : Prop :=
  ∀ e, attempt = .error e → P e

namespace Raises

variable {α β : Type} {P : Error → Prop} {attempt : Except Error α}

theorem ok (a : α) : Raises P (.ok a) := nofun

theorem error {e : Error} (h : P e) : Raises P (.error e : Except Error α) := by
  rintro _ ⟨⟩
  exact h

theorem bind {next : α → Except Error β} (h : Raises P attempt)
    (hnext : ∀ a, Raises P (next a)) : Raises P (attempt >>= next) := by
  cases attempt with
  | ok a => exact hnext a
  | error e => exact .error (h e rfl)

theorem map (f : α → β) (h : Raises P attempt) : Raises P (attempt.map f) := by
  cases attempt with
  | ok a => exact .ok (f a)
  | error e => exact .error (h e rfl)

end Raises

/-! ## Texts -/

/-- A text that ends otherwise is another one. -/
theorem ended_ne {text ending : String} {c : Char} (hlast : ending.toList.getLast? = some c)
    (hc : c ≠ 'h') : Error.config (text ++ ending) ≠ unresolved := by
  intro h
  have htext : text ++ ending = "local port must be resolved before launch" := Error.config.inj h
  have hc' : (text ++ ending).toList.getLast? = some c := by
    rw [String.toList_append, List.getLast?_append, hlast, Option.some_or]
  rw [htext] at hc'
  exact hc (Option.some.inj hc').symm

theorem begun_ne {start text : String} {c : Char} (hfirst : start.toList.head? = some c)
    (hc : c ≠ 'l') : Error.config (start ++ text) ≠ unresolved := by
  intro h
  have htext : start ++ text = "local port must be resolved before launch" := Error.config.inj h
  have hc' : (start ++ text).toList.head? = some c := by
    rw [String.toList_append, List.head?_append, hfirst, Option.some_or]
  rw [htext] at hc'
  exact hc (Option.some.inj hc').symm

/-! ## Settings -/

theorem requireText_raises (field value : String) :
    Raises (· ≠ unresolved) (requireText field value) := by
  unfold requireText
  split
  · exact .error (ended_ne (c := 'd') (by decide) (by decide))
  · exact .ok ()

theorem requirePort_raises (field : String) (port : UInt16) :
    Raises (· ≠ unresolved) (requirePort field port) := by
  unfold requirePort
  split
  · exact .error (ended_ne (c := 'o') (by decide) (by decide))
  · exact .ok ()

theorem credential_raises (c : Ssh.Credential) : Raises (· ≠ unresolved) c.validate := by
  cases c with
  | password p => exact .ok ()
  | privateKey material => exact requireText_raises _ _
  | encryptedPrivateKey material passphrase => exact requireText_raises _ _

theorem validate_raises (s : Settings) : Raises (· ≠ unresolved) s.validate := by
  cases s with
  | ssh s =>
    refine .bind (requireText_raises _ _) fun _ => .bind (requireText_raises _ _) fun _ =>
      .bind (requireText_raises _ _) fun _ => .bind (requirePort_raises _ _) fun _ =>
        .bind (requirePort_raises _ _) fun _ => credential_raises _
  | session s =>
    refine .bind (requireText_raises _ _) fun _ => .bind (requireText_raises _ _) fun _ =>
      .bind (requireText_raises _ _) fun _ => requirePort_raises _ _
  | cluster s =>
    refine .bind (requireText_raises _ _) fun _ => .bind (requireText_raises _ _) fun _ =>
      .bind (requireText_raises _ _) fun _ => requirePort_raises _ _

theorem resolve_raises (allocate : Allocator) (host : String) (port : UInt16) :
    Raises (· ≠ unresolved) (Port.resolve allocate host port) := by
  unfold Port.resolve
  split
  · cases allocate host with
    | ok free => exact .ok free
    | error f =>
      have hother : Error.config
          ("cannot " ++ ("allocate a local port on " ++ host ++ ": " ++ f.message)) ≠ unresolved :=
        begun_ne (c := 'c') (by decide) (by decide)
      exact .error hother
  · exact .ok port

theorem prepare_ne (allocate : Allocator) (s : Settings) :
    prepare allocate s ≠ .error unresolved := by
  have hraises : Raises (· ≠ unresolved) (prepare allocate s) :=
    .bind (validate_raises s) fun _ => .bind (resolve_raises _ _ _) fun _ => .ok _
  exact fun h => hraises _ h rfl

/-! ## Launches -/

namespace Launcher

variable {m : Means} {sys : System} {a : Assignment} {o : Options}

theorem settle_ne (sys : System) (a : Assignment) (path : String) (started : Machine.Started) :
    (settle sys a path started).2 ≠ .error unresolved := by
  unfold settle
  split
  dsimp only
  split <;> nofun

/-- A launch with a port fails for another reason, if it fails. -/
theorem fork_ne (hport : a.localPort ≠ 0) : (fork m sys a o).2 ≠ .error unresolved := by
  intro hfork
  cases hopen : openLog sys.files (o.directory m.env) a with
  | mk files opened =>
    cases opened with
    | error e =>
      obtain ⟨text, rfl⟩ := openLog_error hopen
      rw [fork_unopened hport hopen] at hfork
      cases hfork
    | ok _ =>
      obtain ⟨program, hequip, -⟩ | ⟨text, hequip, -⟩ := equip_cases m o
      · cases hstart : attempt m files program a o with
        | error f =>
          rw [fork_refused hport hopen hequip hstart] at hfork
          cases hfork
        | ok started =>
          rw [fork_started hport hopen hequip hstart] at hfork
          exact settle_ne _ _ _ _ hfork
      · rw [fork_unequipped hport hopen hequip] at hfork
        cases hfork

end Launcher

/-! ## Services of a cluster -/

namespace Cluster

open Kubeconfig (Library)

/-- The errors that the services of a cluster report. -/
inductive Worded : Error → Prop where
  | cannot (rest : String) : Worded (.config ("cannot " ++ rest))
  | invalid (rest : String) : Worded (.config ("invalid " ++ rest))
  | preflight (text : String) : Worded (.preflight text)

theorem Worded.ne {e : Error} (h : Worded e) : e ≠ unresolved := by
  cases h with
  | cannot rest => exact begun_ne (c := 'c') (by decide) (by decide)
  | invalid rest => exact begun_ne (c := 'i') (by decide) (by decide)
  | preflight text => nofun

theorem readFile_worded (lib : Library) (path : String) : Raises Worded (readFile lib path) := by
  unfold readFile
  cases lib.readFrom path with
  | ok k => exact .ok k
  | error text => exact .error (.cannot ("read kubeconfig " ++ path ++ ": " ++ text))

theorem readFiles_worded (lib : Library) (before : Option Kubeconfig) (paths : List String) :
    Raises Worded (readFiles lib before paths) := by
  induction paths generalizing before with
  | nil => exact .ok before
  | cons path rest ih =>
    refine .bind (readFile_worded lib path) fun next => ?_
    cases lib.join before next with
    | ok merged => exact ih (some merged)
    | error text => exact .error (.cannot ("merge " ++ path ++ ": " ++ text))

theorem load_worded (lib : Library) (a : Access) : Raises Worded (load lib a) := by
  rw [load]
  split
  · exact readFiles_worded lib none _
  · exact .map some (readFile_worded lib _)
  · exact .ok _

theorem override_worded (a : Access) (k : Kubeconfig) : Raises Worded (override a k) := by
  rw [override]
  split
  · split
    next => exact .ok _
    next f _ => exact .error (.invalid ("cluster settings: " ++ f.message []))
  · exact .error (.invalid "cluster settings: no document")

section

variable {Config Client : Type} (kit : Toolkit Config Client)

theorem configure_worded (a : Access) : Raises Worded (configure kit a) := by
  refine .bind (load_worded kit.toLibrary a) fun loaded => ?_
  split
  · cases kit.infer with
    | ok config => exact .ok config
    | error text => exact .error (.cannot ("infer cluster configuration: " ++ text))
  · refine .bind (override_worded a _) fun k => ?_
    cases kit.configure k a.choice with
    | ok config => exact .ok config
    | error text => exact .error (.invalid ("kubeconfig: " ++ text))

theorem connect_worded (a : Access) : Raises Worded (connect kit a) := by
  refine .bind (configure_worded kit a) fun config => ?_
  cases kit.create config with
  | ok client => exact .ok client
  | error text => exact .error (.cannot ("create cluster client: " ++ text))

theorem reach_worded (a : Access) : Raises Worded (kit.reach a) := .map _ (connect_worded kit a)

theorem selector_worded (c : Client) (nspace service : String) :
    Raises Worded ((kit.api c).selector nspace service) := by
  rw [Toolkit.api]
  dsimp only
  cases kit.selector c nspace service with
  | ok labels => exact .ok _
  | error text => exact .error (.preflight _)

theorem pods_worded (c : Client) (nspace query : String) :
    Raises Worded ((kit.api c).pods nspace query) := by
  rw [Toolkit.api]
  dsimp only
  cases kit.pods c nspace query with
  | ok names => exact .ok _
  | error text => exact .error (.preflight _)

end

end Cluster

end PortTunnel
