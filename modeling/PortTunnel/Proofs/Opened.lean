import PortTunnel.Proofs.Handoff
import PortTunnel.Proofs.Leftover
import PortTunnel.Proofs.Ported

/-!
# What a tunnel is opened with

Between the settings of a tunnel and the worker that carries it, nothing is added but a local port
where none was given, and what was found out before the launch.

* `Completed`: settings with a local port, and the same otherwise; `prepare_ok`.
* `Checked`: the assignment of settings, by what the check before the launch has found.
* `Opened`: what a tunnel that is open owes to the settings that it was opened with.
* `Reported`: the errors that are the answers of the services of a cluster.
* `SettingsPreserved`: what opening a tunnel owes to its settings, whether or not it succeeds.
* `tunnel_preserves_settings`: every tunnel that is opened owes it, and no launch is without a port.
-/

namespace PortTunnel

/-! ## Completing settings -/

/-- Settings that were completed by a local port, and are the same otherwise. -/
structure Completed (allocate : Allocator) (s s' : Settings) : Prop where
  same : s' = s.withLocalPort s'.localPort
  own : s.localPort ≠ 0 → s'.localPort = s.localPort
  found : s.localPort = 0 → allocate s.localHost = .ok s'.localPort
  resolved : s'.localPort ≠ 0

variable {allocate : Allocator} {s s' : Settings}

theorem Port.resolve_ok {host : String} {given port : UInt16}
    (h : resolve allocate host given = .ok port) :
    given ≠ 0 ∧ port = given ∨ given = 0 ∧ allocate host = .ok port := by
  unfold resolve at h
  split at h
  · rename_i hzero
    cases hfree : allocate host with
    | error f =>
      rw [hfree] at h
      cases h
    | ok free =>
      rw [hfree] at h
      cases h
      exact .inr ⟨hzero, rfl⟩
  · rename_i hne
    cases h
    exact .inl ⟨hne, rfl⟩

/-- Settings that were prepared have the local port that was found for them. -/
theorem prepare_eq_ok (h : prepare allocate s = .ok s') :
    ∃ port, Port.resolve allocate s.localHost s.localPort = .ok port ∧ s' = s.withLocalPort port := by
  unfold prepare at h
  cases hvalid : s.validate with
  | error e =>
    rw [hvalid] at h
    cases h
  | ok _ =>
    cases hport : Port.resolve allocate s.localHost s.localPort with
    | error e =>
      rw [hvalid, hport] at h
      cases h
    | ok port =>
      rw [hvalid, hport] at h
      exact ⟨port, rfl, (Except.ok.inj h).symm⟩

theorem prepare_ok (hfree : ∀ host, allocate host ≠ .ok 0) (h : prepare allocate s = .ok s') :
    Completed allocate s s' := by
  obtain ⟨port, hport, rfl⟩ := prepare_eq_ok h
  have hlocal : (s.withLocalPort port).localPort = port := Settings.localPort_withLocalPort port s
  obtain ⟨hne, rfl⟩ | ⟨hzero, hallocated⟩ := Port.resolve_ok hport
  · exact ⟨by rw [hlocal], fun _ => hlocal, fun hzero => absurd hzero hne, by rwa [hlocal]⟩
  · refine ⟨by rw [hlocal], fun hne => absurd hzero hne, fun _ => by rwa [hlocal], ?_⟩
    rintro hzero'
    rw [hlocal] at hzero'
    exact hfree s.localHost (hzero' ▸ hallocated)

/-! ## The worker -/

namespace Launcher

variable {m : Means} {sys : System} {a : Assignment} {o : Options}

/-- Of a starter, only what it makes of the one command matters. -/
theorem fork_congr {start : Machine.Starter}
    (h : ∀ program, Equipped m o program → ∀ files ms,
      start files (command program a o m.env) ms = m.start files (command program a o m.env) ms) :
    fork { m with start := start } sys a o = fork m sys a o := by
  obtain ⟨program, hequip, hequipped⟩ | ⟨text, hequip, -⟩ := equip_cases m o
  · have hother : equip { m with start := start } o = .ok program := hequip
    rw [Launch.fork_alone hequip, Launch.fork_alone hother]
    simp only [h program hequipped]
  · have hother : equip { m with start := start } o = .error (.io text) := hequip
    simp only [fork, hequip, hother]

/-- A worker is up where it was told to listen. -/
theorem fork_endpoint {worker : Worker} (hfork : (fork m sys a o).2 = .ok worker) :
    worker.localHost = a.localHost ∧ worker.localPort = a.localPort := by
  obtain ⟨files, _, hnone⟩ | ⟨files, program, started, -, hsettle⟩ := fork_cases m sys a o
  · rw [hnone] at hfork
    cases hfork
  · rw [hsettle, settle] at hfork
    dsimp only at hfork
    split at hfork
    · cases hfork
    · cases hfork
      exact ⟨rfl, rfl⟩

end Launcher

/-! ## Pods -/

namespace Cluster

variable {api : Api} {s : Settings}

/-- The first pod of the answer is taken. -/
theorem preflight_first {labels : Text.TextTable} {pod : String} {others : List String}
    (hselector : api.selector s.nspace s.service = .ok labels) (hsome : ¬ labels.isEmpty)
    (hpods : api.pods s.nspace (selectorText labels) = .ok (pod :: others)) :
    preflight api s =
      ([.selector s.nspace s.service, .pods s.nspace (selectorText labels)], .ok ⟨s, pod⟩) := by
  simp only [preflight, hselector, hsome, hpods]
  rfl

theorem preflight_ok {work : Assignment} (h : (preflight api s).2 = .ok work) :
    ∃ labels pod others, api.selector s.nspace s.service = .ok labels ∧ ¬ labels.isEmpty ∧
      api.pods s.nspace (selectorText labels) = .ok (pod :: others) ∧ work = ⟨s, pod⟩ := by
  unfold preflight at h
  cases hselector : api.selector s.nspace s.service with
  | error e =>
    rw [hselector] at h
    cases h
  | ok labels =>
    by_cases hnone : labels.isEmpty
    · simp [hselector, hnone] at h
    · cases hpods : api.pods s.nspace (selectorText labels) with
      | error e => simp [hselector, hnone, hpods] at h
      | ok pods =>
        cases pods with
        | nil => simp [hselector, hnone, hpods] at h
        | cons pod others =>
          simp only [hselector, hnone, hpods] at h
          cases h
          exact ⟨labels, pod, others, rfl, hnone, hpods, rfl⟩

/-- What the check itself finds wrong is said in a way of its own. -/
theorem preflight_config {text : String} (h : (preflight api s).2 = .error (.config text)) :
    api.selector s.nspace s.service = .error (.config text) ∨
      ∃ query, api.pods s.nspace query = .error (.config text) := by
  unfold preflight at h
  cases hselector : api.selector s.nspace s.service with
  | error e =>
    simp only [hselector, Except.error.injEq] at h
    exact .inl (congrArg Except.error h)
  | ok labels =>
    by_cases hnone : labels.isEmpty
    · simp [hselector, hnone] at h
    · cases hpods : api.pods s.nspace (selectorText labels) with
      | error e =>
        simp only [hselector, hnone, hpods, Bool.false_eq_true, if_false, Except.error.injEq] at h
        exact .inr ⟨_, hpods.trans (congrArg Except.error h)⟩
      | ok pods => cases pods <;> simp [hselector, hnone, hpods] at h

end Cluster

namespace Open

open Launcher (System)

/-! ## What is found out before a launch -/

/-- The assignment of settings, by what was found out before the launch. -/
inductive Checked (services : Services) : Settings → Assignment → Prop where
  | ssh (s : Ssh.Settings) : Checked services (.ssh s) (.ssh s)
  | session {s : Session.Settings} {grant : Session.Grant}
      (granted : (services.broker s).start (.ofSettings s) = .ok grant) :
      Checked services (.session s) (.session ⟨s, grant⟩)
  /-- The first pod is taken. -/
  | cluster {s : Cluster.Settings} {api : Cluster.Api} {labels : Text.TextTable} {pod : String}
      {others : List String} (reached : services.api s.access = .ok api)
      (selected : api.selector s.nspace s.service = .ok labels) (labelled : ¬ labels.isEmpty)
      (listed : api.pods s.nspace (Cluster.selectorText labels) = .ok (pod :: others)) :
      Checked services (.cluster s) (.cluster ⟨s, pod⟩)

/-- The services of a cluster themselves report an error. -/
inductive Reported (services : Services) (e : Error) : Settings → Prop where
  | access {s : Cluster.Settings} (h : services.api s.access = .error e) :
      Reported services e (.cluster s)
  | selector {s : Cluster.Settings} {api : Cluster.Api} (reached : services.api s.access = .ok api)
      (h : api.selector s.nspace s.service = .error e) : Reported services e (.cluster s)
  | pods {s : Cluster.Settings} {api : Cluster.Api} {query : String}
      (reached : services.api s.access = .ok api) (h : api.pods s.nspace query = .error e) :
      Reported services e (.cluster s)

variable {pad : Launchpad} {services : Services} {sys : System} {l : Lifecycle} {s : Settings}
  {a : Assignment} {h : Handle}

theorem Checked.settings_eq (hc : Checked services s a) : a.settings = s := by
  cases hc <;> rfl

theorem localHost_settings (a : Assignment) : a.settings.localHost = a.localHost := by
  cases a <;> rfl

theorem localPort_settings (a : Assignment) : a.settings.localPort = a.localPort := by
  cases a <;> rfl

theorem Checked.localHost_eq (hc : Checked services s a) : a.localHost = s.localHost := by
  rw [← localHost_settings, hc.settings_eq]

theorem Checked.localPort_eq (hc : Checked services s a) : a.localPort = s.localPort := by
  rw [← localPort_settings, hc.settings_eq]

/-! ## One launch -/

/-- The receipt of the session of an assignment, if there is one. -/
def receipt? : Assignment → Option Session.Receipt
  | .session work => some (work.settings.receipt work.grant.sessionId)
  | _ => none

/-- The sessions that are asked for under settings. -/
def requests : Settings → List Session.Request
  | .session s => [.ofSettings s]
  | _ => []

/-- The starters that start one command alike. -/
def Agree (pad : Launchpad) (a : Assignment) (start : Machine.Starter) : Prop :=
  ∀ program, Launcher.Equipped pad.toMeans pad.options program → ∀ files ms,
    start files (Launcher.command program a pad.options pad.env) ms =
      pad.start files (Launcher.command program a pad.options pad.env) ms

theorem launch_congr {start : Machine.Starter} (hagree : Agree pad a start) :
    launch { pad with start := start } sys l a = launch pad sys l a := by
  rw [launch, launch, Launcher.fork_congr hagree]

theorem session_congr {broker : Session.Broker} {s : Session.Settings} {grant : Session.Grant}
    {other : Launchpad} (granted : broker.start (.ofSettings s) = .ok grant)
    (hlaunch : launched other sys l s grant = launched pad sys l s grant) :
    session other broker sys l s = session pad broker sys l s := by
  cases hresult : (launched pad sys l s grant).result with
  | ok up => rw [session_kept granted hresult, session_kept granted (hlaunch ▸ hresult), hlaunch]
  | error e =>
    rw [session_rolledBack granted hresult, session_rolledBack granted (hlaunch ▸ hresult), hlaunch]

theorem Checked.alone {start : Machine.Starter} (hc : Checked services s a)
    (hagree : Agree pad a start) :
    prepared { pad with start := start } services sys l s = prepared pad services sys l s := by
  have hlaunch : launch { pad with start := start } sys l a = launch pad sys l a :=
    launch_congr hagree
  cases hc with
  | ssh s => exact hlaunch
  | session granted => exact session_congr granted hlaunch
  | cluster reached selected labelled listed =>
    simp only [prepared, reached, Open.cluster, Cluster.preflight_first selected labelled listed, hlaunch]

theorem launch_ok (hresult : (launch pad sys l a).result = .ok h) :
    ∃ worker, Launcher.fork pad.toMeans sys a pad.options =
      ((launch pad sys l a).system, .ok worker) ∧ h = handleOf worker := by
  obtain ⟨-, worker, hworker, hhandle⟩ := (launch_result pad sys l a h).mp hresult
  exact ⟨worker, Prod.ext (launch_system a).symm hworker, hhandle.symm⟩

theorem launch_sessionCalls (a : Assignment) : (launch pad sys l a).sessionCalls = [] := by
  unfold launch
  split
  · rfl
  · split <;> rfl

/-- A tunnel that opens has started one worker, for what was found out. -/
theorem prepared_ok (hopen : (prepared pad services sys l s).result = .ok h) :
    ∃ a worker, Checked services s a ∧
      Launcher.fork pad.toMeans sys a pad.options =
        ((prepared pad services sys l s).system, .ok worker) ∧
      h = { handleOf worker with session := receipt? a } ∧
      startsOf (prepared pad services sys l s).sessionCalls = requests s := by
  cases s with
  | ssh s =>
    obtain ⟨worker, hfork, rfl⟩ := launch_ok hopen
    exact ⟨_, worker, .ssh s, hfork, rfl, congrArg startsOf (launch_sessionCalls _)⟩
  | session s =>
    rw [prepared] at hopen ⊢
    cases hstart : (services.broker s).start (.ofSettings s) with
    | error e =>
      rw [session_refused hstart] at hopen
      cases hopen
    | ok grant =>
      cases hlaunch : (launched pad sys l s grant).result with
      | error e =>
        rw [session_rolledBack hstart hlaunch] at hopen
        cases hopen
      | ok up =>
        rw [session_kept hstart hlaunch] at hopen ⊢
        cases hopen
        obtain ⟨worker, hfork, rfl⟩ := launch_ok hlaunch
        exact ⟨_, worker, .session hstart, hfork, rfl, rfl⟩
  | cluster s =>
    rw [prepared] at hopen ⊢
    cases hapi : services.api s.access with
    | error e =>
      rw [hapi] at hopen
      cases hopen
    | ok api =>
      simp only [hapi, cluster] at hopen ⊢
      cases hcheck : Cluster.preflight api s with
      | mk asked checked =>
        rw [hcheck] at hopen
        cases checked with
        | error e => cases hopen
        | ok work =>
          obtain ⟨labels, pod, others, hselector, hsome, hpods, rfl⟩ :=
            Cluster.preflight_ok (congrArg Prod.snd hcheck)
          obtain ⟨worker, hfork, rfl⟩ := launch_ok hopen
          exact ⟨_, worker, .cluster hapi hselector hsome hpods, hfork, rfl,
            congrArg startsOf (launch_sessionCalls _)⟩

theorem launch_ne (hport : a.localPort ≠ 0) : (launch pad sys l a).result ≠ .error unresolved := by
  have hfork : (Launcher.fork pad.toMeans sys a pad.options).2 ≠ .error unresolved :=
    Launcher.fork_ne hport
  unfold launch
  split
  next hrefused =>
    rw [hrefused] at hfork
    exact fun hresult => hfork (congrArg Except.error (Except.error.inj hresult))
  next =>
    by_cases hready : l.stage.admits .ready
    · simp [Lifecycle.transition, hready]
    · simp [Lifecycle.transition, hready, Lifecycle.refusal, unresolved]

/-- No launch is without a port. -/
theorem prepared_reported (hport : s.localPort ≠ 0)
    (hresult : (prepared pad services sys l s).result = .error unresolved) :
    Reported services unresolved s := by
  cases s with
  | ssh s => exact absurd hresult (launch_ne hport)
  | session s =>
    rw [prepared] at hresult
    cases hstart : (services.broker s).start (.ofSettings s) with
    | error e =>
      rw [session_refused hstart] at hresult
      obtain ⟨text, herror, -⟩ := startError_eq e
      rw [herror] at hresult
      cases hresult
    | ok grant =>
      cases hlaunch : (launched pad sys l s grant).result with
      | error e =>
        rw [session_rolledBack hstart hlaunch] at hresult
        exact absurd (hlaunch.trans hresult) (launch_ne hport)
      | ok up =>
        rw [session_kept hstart hlaunch] at hresult
        cases hresult
  | cluster s =>
    rw [prepared] at hresult
    cases hapi : services.api s.access with
    | error e =>
      rw [hapi] at hresult
      exact .access (hapi.trans (congrArg Except.error (Except.error.inj hresult)))
    | ok api =>
      simp only [hapi, cluster] at hresult
      cases hcheck : Cluster.preflight api s with
      | mk asked checked =>
        rw [hcheck] at hresult
        cases checked with
        | ok work =>
          obtain ⟨labels, pod, others, -, -, -, rfl⟩ :=
            Cluster.preflight_ok (congrArg Prod.snd hcheck)
          exact absurd hresult (launch_ne hport)
        | error e =>
          have hconfig : (Cluster.preflight api s).2 = .error unresolved :=
            (congrArg Prod.snd hcheck).trans (congrArg Except.error (Except.error.inj hresult))
          obtain hselector | ⟨query, hpods⟩ := Cluster.preflight_config hconfig
          · exact .selector hapi hselector
          · exact .pods hapi hpods

/-! ## Tunnels that are open -/

/-- The text of the local port in what is asked of a session service. -/
def portParameter (r : Session.Request) : Json :=
  ((r.toJson.member "Parameters").member "localPortNumber")

/-- What a tunnel that is open owes to the settings `s`, as they were completed. -/
structure Opened (pad : Launchpad) (services : Services) (sys : System) (s : Settings)
    (a : Assignment) (o : Outcome) (h : Handle) : Prop where
  checked : Checked services s a
  /-- No setting is changed or lost. -/
  unchanged : a.settings = s
  /-- The worker is started for the assignment, and the handle is that of the worker. -/
  forked : ∃ worker, Launcher.fork pad.toMeans sys a pad.options = (o.system, .ok worker) ∧
    h = { handleOf worker with session := receipt? a }
  /-- The assignment is what the worker reads. -/
  told : ∀ program, (Launch.ofEnvironment (Launcher.command program a pad.options pad.env).env
    (Launcher.command program a pad.options pad.env).args).2 =
      .ok (some ⟨a.kind, a, pad.options.parentPid⟩)
  asked : startsOf o.sessionCalls = requests s
  /-- A session is asked for the port on which the tunnel listens. -/
  numbered : ∀ r ∈ startsOf o.sessionCalls, portParameter r = Json.ofTexts [toString s.localPort.toNat]
  host : h.localHost = s.localHost ∧ a.localHost = s.localHost
  port : h.localPort = s.localPort ∧ a.localPort = s.localPort

theorem portParameter_requests {r : Session.Request} (hr : r ∈ requests s) :
    portParameter r = Json.ofTexts [toString s.localPort.toNat] := by
  cases s with
  | session s =>
    rw [List.mem_singleton.mp hr]
    rfl
  | ssh s => cases hr
  | cluster s => cases hr

theorem prepared_opened (hopen : (prepared pad services sys l s).result = .ok h) :
    ∃ a, Opened pad services sys s a (prepared pad services sys l s) h := by
  obtain ⟨a, worker, hchecked, hfork, hhandle, hasked⟩ := prepared_ok hopen
  obtain ⟨hhost, hport⟩ := Launcher.fork_endpoint (congrArg Prod.snd hfork)
  refine ⟨a, hchecked, hchecked.settings_eq, ⟨worker, hfork, hhandle⟩, ?_, hasked, ?_, ?_, ?_⟩
  · exact fun _ =>
      congrArg Prod.snd (Launch.ofEnvironment_environment a pad.env pad.options.parentPid)
  · intro r hr
    exact portParameter_requests (hasked ▸ hr)
  · rw [hhandle, ← hchecked.localHost_eq]
    exact ⟨hhost, rfl⟩
  · rw [hhandle, ← hchecked.localPort_eq]
    exact ⟨hport, rfl⟩

theorem settle_of_ok {o : Outcome} (hresult : o.result = .ok h) : o.settle = o := by
  rw [Outcome.settle, hresult]

variable {allocate : Allocator}

/-- What opening a tunnel owes to the settings `s` that it is given. -/
structure SettingsPreserved (pad : Launchpad) (services : Services) (allocate : Allocator)
    (sys : System) (s : Settings) : Prop where
  completed : ∀ s', prepare allocate s = .ok s' → Completed allocate s s'
  /-- A tunnel that opens has one worker, which is started for the completed settings. -/
  opened : ∀ h, (tunnel pad services allocate sys s).result = .ok h →
    ∃ s' a, prepare allocate s = .ok s' ∧
      Opened pad services sys s' a (tunnel pad services allocate sys s) h ∧
      ∀ start, Agree pad a start → tunnel { pad with start := start } services allocate sys s =
        tunnel pad services allocate sys s
  /-- A launch is never refused for want of a port. -/
  ported : ∀ s' a, prepare allocate s = .ok s' → Checked services s' a → a.requirePort = .ok ()
  /-- Nothing but the services of a cluster could ever report that a launch was refused so. -/
  reported : (tunnel pad services allocate sys s).result = .error unresolved →
    ∃ s', prepare allocate s = .ok s' ∧ Reported services unresolved s'
  /-- Services that put their errors as those of a cluster are put never report it. -/
  resolved : (∀ s' e, Reported services e s' → Cluster.Worded e) →
    (tunnel pad services allocate sys s).result ≠ .error unresolved
  /-- Services that go through a library for clusters never report it, whatever the library says. -/
  reached : ∀ {Config Client : Type} (kit : Cluster.Toolkit Config Client),
    services.api = kit.reach → (tunnel pad services allocate sys s).result ≠ .error unresolved

theorem tunnel_opened {s : Settings}
    (hopen : (tunnel pad services allocate sys s).result = .ok h) :
    ∃ s' a, prepare allocate s = .ok s' ∧
      Opened pad services sys s' a (tunnel pad services allocate sys s) h ∧
      ∀ start, Agree pad a start → tunnel { pad with start := start } services allocate sys s =
        tunnel pad services allocate sys s := by
  cases hprepare : prepare allocate s with
  | error e =>
    rw [tunnel, hprepare] at hopen
    cases hopen
  | ok s' =>
    rw [tunnel_of_prepared hprepare, settle_result] at hopen
    obtain ⟨a, hopened⟩ := prepared_opened hopen
    refine ⟨s', a, rfl, ?_, fun start hagree => ?_⟩
    · rwa [tunnel_of_prepared hprepare, settle_of_ok hopen]
    · rw [tunnel_of_prepared hprepare, tunnel_of_prepared hprepare, hopened.checked.alone hagree]

theorem tunnel_reported (hfree : ∀ host, allocate host ≠ .ok 0) {s : Settings}
    (hresult : (tunnel pad services allocate sys s).result = .error unresolved) :
    ∃ s', prepare allocate s = .ok s' ∧ Reported services unresolved s' := by
  cases hprepare : prepare allocate s with
  | error e =>
    rw [tunnel, hprepare] at hresult
    have hrefused : prepare allocate s = .error unresolved :=
      hprepare.trans (congrArg Except.error (Except.error.inj hresult))
    exact absurd hrefused (prepare_ne allocate s)
  | ok s' =>
    rw [tunnel_of_prepared hprepare, settle_result] at hresult
    exact ⟨s', rfl, prepared_reported (prepare_ok hfree hprepare).resolved hresult⟩

theorem requirePort_ok (hport : a.localPort ≠ 0) : a.requirePort = .ok () := if_neg hport

/-- Whatever a library for clusters says, its errors are put as those of a cluster. -/
theorem worded_of_reach {Config Client : Type} {kit : Cluster.Toolkit Config Client}
    (hreach : services.api = kit.reach) {e : Error} (h : Reported services e s) :
    Cluster.Worded e := by
  have hclient {access : Cluster.Access} {api : Cluster.Api}
      (hapi : services.api access = .ok api) : ∃ c, api = kit.api c := by
    rw [hreach, Cluster.Toolkit.reach] at hapi
    cases hconnect : Cluster.connect kit access with
    | error e =>
      rw [hconnect] at hapi
      cases hapi
    | ok c =>
      rw [hconnect] at hapi
      exact ⟨c, (Except.ok.inj hapi).symm⟩
  cases h with
  | access h =>
    rw [hreach] at h
    exact Cluster.reach_worded kit _ e h
  | selector reached h =>
    obtain ⟨c, rfl⟩ := hclient reached
    exact Cluster.selector_worded kit c _ _ e h
  | pods reached h =>
    obtain ⟨c, rfl⟩ := hclient reached
    exact Cluster.pods_worded kit c _ _ e h

theorem tunnel_preserves_settings (pad : Launchpad) (services : Services) (allocate : Allocator)
    (hfree : ∀ host, allocate host ≠ .ok 0) (sys : System) (s : Settings) :
    SettingsPreserved pad services allocate sys s := by
  have hresolved (hworded : ∀ s' e, Reported services e s' → Cluster.Worded e) :
      (tunnel pad services allocate sys s).result ≠ .error unresolved := by
    intro hresult
    obtain ⟨s', -, hreported⟩ := tunnel_reported hfree hresult
    exact (hworded s' _ hreported).ne rfl
  constructor
  case completed => exact fun _ => prepare_ok hfree
  case opened => exact fun _ => tunnel_opened
  case ported =>
    intro s' a hprepare hchecked
    refine requirePort_ok ?_
    rw [hchecked.localPort_eq]
    exact (prepare_ok hfree hprepare).resolved
  case reported => exact tunnel_reported hfree
  case resolved => exact hresolved
  case reached => exact fun _ hreach => hresolved fun _ _ => worded_of_reach hreach

/-- A library for clusters on a machine from which none can be reached. -/
def remote : Cluster.Toolkit Unit Unit where
  readFrom _ := .error "No such file or directory (os error 2)"
  merge _ _ := .error "no documents"
  read := .error "No such file or directory (os error 2)"
  infer := .error "there is no cluster around the program"
  configure _ _ := .ok ()
  create _ := .ok ()
  selector _ _ _ := .error "no answer"
  pods _ _ _ := .error "no answer"

/-- Services that grant every session, on a machine without a cluster. -/
def granting : Services :=
  ⟨fun _ => ⟨fun _ => .ok ⟨"s-1", "token", "wss://stream"⟩, fun _ => .ok ()⟩, remote.reach⟩

def portless : Session.Settings :=
  ⟨"i-0abc", "eu-west-1", some "", none, "db", 5432, 0, none⟩

/-- A session whose settings name no local port is opened on the one that is found. -/
theorem tunnel_preserves_settings_portless :
    SettingsPreserved hospitable granting (fun _ => .ok 40000) ⟨{}, {}⟩ (.session portless) ∧
      (∀ s' e, Reported granting e s' → Cluster.Worded e) ∧
      (tunnel hospitable granting (fun _ => .ok 40000) ⟨{}, {}⟩ (.session portless)).result =
        .ok ⟨"localhost", 40000, 1000, "/tmp/ssm-tunnel-i-0abc-5432.log",
          some ⟨"s-1", "eu-west-1", some "", none⟩⟩ :=
  ⟨tunnel_preserves_settings hospitable granting (fun _ => .ok 40000) (fun _ h => by cases h)
    ⟨{}, {}⟩ (.session portless), fun _ _ => worded_of_reach rfl, by rfl⟩

end Open

end PortTunnel
