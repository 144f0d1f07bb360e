import PortTunnel.Proofs.Launcher
import PortTunnel.Proofs.Open

/-!
# What a failed attempt leaves running

A worker is started before the tunnel is told that it is ready, so whether an attempt that failed
left a worker behind depends on the stage that the tunnel was in.

* `Unawaited`: a worker came up, and the tunnel was not waiting for it.
* `LeftBehind`: what an attempt that failed leaves running.
* `running_of_failed_open`: an attempt that failed leaves a worker running exactly if one came up
  unawaited. `stray_worker` shows one; opening a tunnel from its settings never leaves one.
-/

namespace PortTunnel.Open

open Launcher (System)

variable (pad : Launchpad) (sys : System) (l : Lifecycle)

/-- A worker came up for a tunnel that does not wait for one. -/
def Unawaited (a : Assignment) : Prop :=
  l.stage ≠ .starting ∧
    ∃ worker, (Launcher.fork pad.toMeans sys a pad.options).2 = .ok worker

/-- What an attempt that failed leaves running, by the assignment that it got to, if any. -/
structure LeftBehind (a? : Option Assignment) (after : System) : Prop where
  /-- Nothing new is left running, unless a worker came up that was not waited for. -/
  clean : after.processes.running = sys.processes.running ↔ ∀ a ∈ a?, ¬ Unawaited pad sys l a
  /-- A worker that came up and was not waited for stays, and it alone. -/
  stray : ∀ a ∈ a?, l.stage ≠ .starting → ∀ worker,
    (Launcher.fork pad.toMeans sys a pad.options).2 = .ok worker →
      after.processes.running = sys.processes.running ++ [worker.pid]

/-- The assignment of a session that a broker starts, if it does. -/
def sessionWork? (broker : Session.Broker) (s : Session.Settings) : Option Assignment :=
  (Session.preflight broker s).toOption.map .session

/-- The assignment of a service whose pod an API finds, if it does. -/
def clusterWork? (api : Cluster.Api) (s : Cluster.Settings) : Option Assignment :=
  (Cluster.preflight api s).2.toOption.map .cluster

variable {pad sys l}

/-! ## Launches -/

theorem launch_system (a : Assignment) :
    (launch pad sys l a).system = (Launcher.fork pad.toMeans sys a pad.options).1 := by
  rw [launch]
  split
  next hfork => rw [hfork]
  next hfork =>
    rw [hfork]
    split <;> rfl

theorem leftBehind_of_nothing : LeftBehind pad sys l none sys where
  clean := by simp
  stray := by simp

theorem leftBehind_of_launch {a : Assignment} {e : Error} (h : sys.processes.Fresh)
    (hlaunch : (launch pad sys l a).result = .error e) :
    LeftBehind pad sys l (some a) (launch pad sys l a).system := by
  rw [launch_system]
  cases hfork : (Launcher.fork pad.toMeans sys a pad.options).2 with
  | error refusal =>
    have hno : ∀ worker, (Launcher.fork pad.toMeans sys a pad.options).2 ≠ .ok worker := by
      simp [hfork]
    constructor
    · refine iff_of_true (Launcher.running_of_fork_error h hfork) ?_
      rintro _ ⟨⟩ ⟨-, worker, hworker⟩
      exact hno worker hworker
    · rintro _ ⟨⟩ - worker hworker
      exact absurd hworker (hno worker)
  | ok worker =>
    have hrunning := Launcher.running_of_fork_ok h hfork
    have hstage : l.stage ≠ .starting := by
      intro hstage
      have hup := (launch_result pad sys l a (handleOf worker)).mpr ⟨hstage, worker, hfork, rfl⟩
      rw [hup] at hlaunch
      cases hlaunch
    constructor
    · refine iff_of_false (by simp [hrunning]) fun hall => ?_
      exact hall a rfl ⟨hstage, worker, hfork⟩
    · rintro _ ⟨⟩ - other hother
      rw [hfork] at hother
      cases hother
      exact hrunning

/-- A tunnel that waits for its worker has nothing to leave behind. -/
theorem LeftBehind.running {a? : Option Assignment} {after : System}
    (h : LeftBehind pad sys l a? after) (hstage : l.stage = .starting) :
    after.processes.running = sys.processes.running :=
  h.clean.mpr fun _ _ hunawaited => hunawaited.1 hstage

/-! ## Sessions, services and tunnels -/

theorem session_leaves {broker : Session.Broker} {s : Session.Settings} {e : Error}
    (h : sys.processes.Fresh) (hresult : (session pad broker sys l s).result = .error e) :
    LeftBehind pad sys l (sessionWork? broker s) (session pad broker sys l s).system := by
  cases hstart : broker.start (.ofSettings s) with
  | error refusal =>
    rw [sessionWork?, preflight_refused hstart, session_refused hstart]
    exact leftBehind_of_nothing
  | ok grant =>
    rw [sessionWork?, preflight_granted hstart]
    cases hlaunch : (launched pad sys l s grant).result with
    | ok handle =>
      rw [session_kept hstart hlaunch] at hresult
      cases hresult
    | error refusal =>
      rw [session_rolledBack hstart hlaunch]
      exact leftBehind_of_launch h hlaunch

theorem cluster_leaves {api : Cluster.Api} {s : Cluster.Settings} {e : Error}
    (h : sys.processes.Fresh) (hresult : (cluster pad api sys l s).result = .error e) :
    LeftBehind pad sys l (clusterWork? api s) (cluster pad api sys l s).system := by
  rw [cluster] at hresult ⊢
  rw [clusterWork?]
  cases hcheck : Cluster.preflight api s with
  | mk asked checked =>
    rw [hcheck] at hresult
    cases checked with
    | error refusal => exact leftBehind_of_nothing
    | ok work => exact leftBehind_of_launch h hresult

theorem prepared_leaves {services : Services} {s : Settings} {e : Error}
    (h : sys.processes.Fresh) (hstage : l.stage = .starting)
    (hresult : (prepared pad services sys l s).result = .error e) :
    (prepared pad services sys l s).system.processes.running = sys.processes.running := by
  cases s with
  | ssh s => exact (leftBehind_of_launch h hresult).running hstage
  | session s => exact (session_leaves h hresult).running hstage
  | cluster s =>
    rw [prepared] at hresult ⊢
    cases hapi : services.api s.access with
    | error refusal => rfl
    | ok api =>
      rw [hapi] at hresult
      exact (cluster_leaves h hresult).running hstage

theorem settle_system (o : Outcome) : o.settle.system = o.system := by
  rw [Outcome.settle]
  split <;> rfl

theorem settle_result (o : Outcome) : o.settle.result = o.result := by
  rw [Outcome.settle]
  split <;> rfl

theorem tunnel_of_prepared {services : Services} {allocate : Allocator} {s s' : Settings}
    (hprepare : prepare allocate s = .ok s') :
    tunnel pad services allocate sys s = (prepared pad services sys ⟨.starting⟩ s').settle := by
  rw [tunnel, hprepare]
  rfl

theorem tunnel_leaves {services : Services} {allocate : Allocator} {s : Settings} {e : Error}
    (h : sys.processes.Fresh) (hresult : (tunnel pad services allocate sys s).result = .error e) :
    (tunnel pad services allocate sys s).system.processes.running = sys.processes.running := by
  cases hprepare : prepare allocate s with
  | error refusal =>
    rw [tunnel, hprepare]
  | ok s' =>
    rw [tunnel_of_prepared hprepare, settle_result] at hresult
    rw [tunnel_of_prepared hprepare, settle_system]
    exact prepared_leaves h rfl hresult

theorem running_of_failed_open (pad : Launchpad) (sys : System) (h : sys.processes.Fresh) :
    (∀ l broker s e, (session pad broker sys l s).result = .error e →
      LeftBehind pad sys l (sessionWork? broker s) (session pad broker sys l s).system) ∧
    (∀ l api s e, (cluster pad api sys l s).result = .error e →
      LeftBehind pad sys l (clusterWork? api s) (cluster pad api sys l s).system) ∧
    ∀ services allocate s e, (tunnel pad services allocate sys s).result = .error e →
      (tunnel pad services allocate sys s).system.processes.running = sys.processes.running :=
  ⟨fun _ _ _ _ => session_leaves h, fun _ _ _ _ => cluster_leaves h,
    fun _ _ _ _ => tunnel_leaves h⟩

/-! ## A worker that stays -/

/-- A machine on which whatever is started comes up. -/
def hospitable : Launchpad where
  start _ _ _ := .ok ⟨[], .running false⟩
  env := .empty
  executable := .ok "worker"
  options := { parentPid := 1 }

/-- A cluster in which one pod is behind every service. -/
def onePod : Cluster.Api := ⟨fun _ _ => .ok (.ofList [("app", "web")]), fun _ _ => .ok ["web-0"]⟩

def web : Cluster.Settings := ⟨"127.0.0.1", 18080, "default", "web", 80, {}⟩

/-- The worker of a tunnel that was not about to start is left running. -/
theorem stray_worker :
    let o := cluster hospitable onePod ⟨{}, {}⟩ ⟨.created⟩ web
    o.result = .error (Lifecycle.refusal .created .ready) ∧ o.system.processes.running = [1000] :=
  ⟨rfl, rfl⟩

theorem running_of_failed_open_hospitable :
    LeftBehind hospitable ⟨{}, {}⟩ ⟨.created⟩ (clusterWork? onePod web)
      (cluster hospitable onePod ⟨{}, {}⟩ ⟨.created⟩ web).system :=
  (running_of_failed_open hospitable ⟨{}, {}⟩ nofun).2.1 ⟨.created⟩ onePod web
    (Lifecycle.refusal .created .ready) rfl

end PortTunnel.Open
