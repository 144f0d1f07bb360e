import PortTunnel.Proofs.Opened
import PortTunnel.Proofs.Teardown
import PortTunnel.Proofs.Tolerance
import PortTunnel.Proofs.Watchdog
import PortTunnel.Session.Registry

/-!
# Closing what was opened

The account in which a session was started goes along with the handle of its tunnel, also where the
handle was printed and read again, and it is the account in which the session is ended.

* `Handle.decode_text`: the text that is printed of a handle is read as this handle.
* `Handle.closeIn`: closes a tunnel, with the brokers of all accounts at hand.
* `CloseOutcome`: what closing a tunnel owes to whoever opened it.
* `close_undoes_open`: it is owed for every tunnel that is opened.
-/

namespace PortTunnel

open Machine (Processes Signal)
open Schema
open Session (Connector Registry)

/-! ## Printed handles -/

namespace Json

theorem stands_pretty {j : Json} (hj : j.Integral) : Stands (prettyChars 0 j ++ ['\n']) j := by
  have hblank : Blanks ['\n'] := by simp [Blanks, isSpace]
  have hread := Layout.lines.ofChars_chars hj 0 hblank
  rwa [Layout.chars_lines] at hread

end Json

namespace Handle

variable (h : Handle)

theorem integral_toJson : (Recorded.toJson h).Integral :=
  Shape.integral_write (Portable.sound (α := Handle)) h.toVal

theorem depth_toJson : (Recorded.toJson h).depth < Json.depthLimit :=
  Nat.lt_of_le_of_lt (Shape.depth_write (Portable.sound (α := Handle)) h.toVal)
    (Portable.shallow (α := Handle))

theorem stands_text : Json.Stands h.text.toList (Recorded.toJson h) := by
  have htext : h.text.toList = Json.prettyChars 0 (Recorded.toJson h) ++ ['\n'] := by
    rw [text, String.toList_append, Json.pretty, String.toList_ofList]
    rfl
  rw [htext]
  exact Json.stands_pretty h.integral_toJson

theorem decode_text : Payload.decodeChars h.text.toList = .ok h :=
  Payload.decodeChars_varied (Shape.varied_write (Recorded.shape Handle) h.toVal) h.depth_toJson
    h.stands_text

theorem parse_text : Json.parse h.text.toList = .ok (Recorded.toJson h).normal := by
  obtain ⟨root, hdocument, hvalue⟩ := h.stands_text
  exact Json.parse_of_value hdocument hvalue h.depth_toJson

/-- The members of the text, each of which stands there once. -/
theorem parse_text_of_none (hsession : h.session = none) :
    Json.parse h.text.toList = .ok (.object [("local_host", .string h.localHost),
      ("local_port", .nat h.localPort.toNat), ("pid", .nat h.pid.toNat),
      ("log_path", .string h.logPath)]) := by
  obtain ⟨localHost, localPort, pid, logPath, session⟩ := h
  cases hsession
  rw [parse_text]
  rfl

/-! ## Closing handles -/

/-- Closes a tunnel, through the registry of the session behind it. -/
def closeIn (connect : Connector) (ps : Processes) : Closed :=
  h.close ((Registry.ofReceipt? h.session).brokerFor connect) ps

variable {h} {connect : Connector} {ps : Processes}

theorem closeIn_eq : h.closeIn connect ps =
    closeBy Control.interrupt ((Registry.ofReceipt? h.session).brokerFor connect) ps h.pid.toNat
      h.session := rfl

theorem attempts_closeIn : (h.closeIn connect ps).attempts = [h.pid.toNat] := by
  rw [closeIn_eq, Teardown.closeBy_eq]

theorem processes_closeIn :
    (h.closeIn connect ps).processes = (Control.interrupt ps h.pid.toNat).1 := by
  rw [closeIn_eq, Teardown.closeBy_eq]

theorem calls_closeIn : (h.closeIn connect ps).calls =
    h.session.toList.map fun receipt => .terminate receipt.sessionId := by
  rw [closeIn_eq, Teardown.closeBy_eq]

/-- No broker but that of the account of the session has a part in it. -/
theorem closeIn_of_session {receipt : Session.Receipt} (hsession : h.session = some receipt) :
    h.closeIn connect ps =
      h.close (fun _ => connect ⟨receipt.region, receipt.profile, receipt.roleArn⟩) ps := by
  rw [closeIn_eq, close, PortTunnel.close, Teardown.closeBy_eq, Teardown.closeBy_eq, hsession]
  rfl

end Handle

/-- A process that is interrupted hears of it where the system sends signals, and no other does. -/
theorem Control.find?_interrupt (ps : Processes) (pid other : Nat) :
    (Control.interrupt ps pid).1.find? other =
      if ps.guarded = false ∧ other = pid then (ps.find? other).map (Processes.receive .interrupt)
      else ps.find? other := by
  cases hfind : ps.find? pid with
  | none =>
    have hkept : (Control.interrupt ps pid).1 = ps := by rw [interrupt, send, hfind]
    rw [hkept]
    split
    next hpid => rw [hpid.2, hfind, Option.map_none]
    next => rfl
  | some c =>
    have hsent : (Control.interrupt ps pid).1 = (ps.signal pid .interrupt).1 := by
      rw [interrupt, send, hfind]
      dsimp only
      split
      next heq => rw [heq]
      next heq => rw [heq]
    rw [hsent, Processes.find?_signal]

/-! ## Opening by accounts -/

namespace Open

open Launcher (System)

/-- The services of a machine on which brokers are connected by their accounts. -/
def connected (connect : Connector) (api : Cluster.Access → Except Error Cluster.Api) : Services :=
  ⟨fun s => connect s.account, api⟩

variable {pad : Launchpad} {connect : Connector}
  {api : Cluster.Access → Except Error Cluster.Api} {allocate : Allocator} {sys : System}
  {s : Settings} {c : Session.Settings} {h : Handle}

/-- Opening a session has no part for any broker but that of its account. -/
theorem tunnel_session_congr {other : Connector} (hother : other c.account = connect c.account) :
    tunnel pad (connected other api) allocate sys (.session c) =
      tunnel pad (connected connect api) allocate sys (.session c) := by
  cases hprepare : prepare allocate (.session c) with
  | error e => simp only [tunnel, hprepare]
  | ok s' =>
    obtain ⟨port, -, rfl⟩ := prepare_eq_ok hprepare
    have hbroker : (connected other api).broker { c with localPort := port } =
        (connected connect api).broker { c with localPort := port } := hother
    rw [tunnel_of_prepared hprepare, tunnel_of_prepared hprepare, Settings.withLocalPort, prepared,
      prepared, hbroker]

/-- What a session owes to whoever opened it with the settings `c` and has `h` to close it. -/
structure SessionEnd (pad : Launchpad) (connect : Connector)
    (api : Cluster.Access → Except Error Cluster.Api) (allocate : Allocator) (sys : System)
    (c : Session.Settings) (h : Handle) : Prop where
  /-- The one session that was started in the account of the settings is the one that is ended. -/
  ended : ∃ c' grant, prepare allocate (.session c) = .ok (.session c') ∧
    startsOf (tunnel pad (connected connect api) allocate sys (.session c)).sessionCalls =
      [.ofSettings c'] ∧
    (connect c.account).start (.ofSettings c') = .ok grant ∧
    ∀ ps, (h.closeIn connect ps).calls = [.terminate grant.sessionId]
  /-- However brokers are connected, that of the account of the settings opens the tunnel alone. -/
  opener : ∀ other : Connector, other c.account = connect c.account →
    tunnel pad (connected other api) allocate sys (.session c) =
      tunnel pad (connected connect api) allocate sys (.session c)
  /-- However brokers are connected, that of the account of the settings closes the tunnel alone. -/
  closer : ∀ (other : Connector) ps, h.closeIn other ps = h.close (fun _ => other c.account) ps

/-- What closing a tunnel owes to whoever opened it with the settings `s` and got `h`. -/
structure CloseOutcome (pad : Launchpad) (connect : Connector)
    (api : Cluster.Access → Except Error Cluster.Api) (allocate : Allocator) (sys : System)
    (s : Settings) (h : Handle) : Prop where
  /-- What is printed is read as the handle that it was printed for. -/
  read : Payload.decodeChars h.text.toList = .ok h
  /-- The process of the handle is told to end, and no other hears of it. -/
  interrupted : ∀ ps, (h.closeIn connect ps).attempts = [h.pid.toNat] ∧
    (h.closeIn connect ps).processes = (Control.interrupt ps h.pid.toNat).1 ∧
    ∀ other, other ≠ h.pid.toNat → (h.closeIn connect ps).processes.find? other = ps.find? other
  /-- Where the system sends signals, a process of the handle that is running ends by the interrupt,
  unless it ignores interrupts. -/
  stopped : ∀ ps ignores, ps.guarded = false →
    ps.find? h.pid.toNat = some (.running ignores) →
      (h.closeIn connect ps).processes.find? h.pid.toNat =
        some (if ignores then .running true else .zombie (.signal Signal.interrupt.number))
  session : ∀ c, s = .session c → SessionEnd pad connect api allocate sys c h
  /-- Of a tunnel of another kind there is no session, also not in what is printed. -/
  sessionless : (∀ c, s ≠ .session c) → h.session = none ∧
    (∀ ps, (h.closeIn connect ps).calls = []) ∧
    ∃ members, Json.parse h.text.toList = .ok (.object members) ∧
      Json.find? "session" members = none

theorem sessionEnd_of_opened
    (hopen : (tunnel pad (connected connect api) allocate sys (.session c)).result = .ok h) :
    SessionEnd pad connect api allocate sys c h := by
  obtain ⟨s', a, hprepare, hopened, -⟩ := tunnel_opened hopen
  obtain ⟨port, -, rfl⟩ := prepare_eq_ok hprepare
  obtain ⟨worker, -, hhandle⟩ := hopened.forked
  cases hopened.checked with
  | @session _ grant granted =>
    have hsession : h.session = some (c.receipt grant.sessionId) := by rw [hhandle]; rfl
    refine ⟨⟨_, grant, hprepare, hopened.asked, granted, fun ps => ?_⟩,
      fun other => tunnel_session_congr, fun other ps => ?_⟩
    · rw [Handle.calls_closeIn, hsession]
      rfl
    · exact Handle.closeIn_of_session hsession

theorem sessionless_of_tunnel {services : Services} (hplain : ∀ c, s ≠ .session c)
    (hopen : (tunnel pad services allocate sys s).result = .ok h) : h.session = none := by
  obtain ⟨s', a, hprepare, hopened, -⟩ := tunnel_opened hopen
  obtain ⟨port, -, rfl⟩ := prepare_eq_ok hprepare
  obtain ⟨worker, -, hhandle⟩ := hopened.forked
  have hnone : receipt? a = none := by
    have hchecked := hopened.checked
    cases s with
    | ssh s =>
      cases hchecked
      rfl
    | session c => exact absurd rfl (hplain c)
    | cluster s =>
      cases hchecked
      rfl
  rw [hhandle, hnone]

theorem close_undoes_open (pad : Launchpad) (connect : Connector)
    (api : Cluster.Access → Except Error Cluster.Api) (allocate : Allocator) (sys : System)
    (s : Settings) (h : Handle)
    (hopen : (tunnel pad (connected connect api) allocate sys s).result = .ok h) :
    CloseOutcome pad connect api allocate sys s h where
  read := h.decode_text
  interrupted ps := by
    refine ⟨Handle.attempts_closeIn, Handle.processes_closeIn, fun other hne => ?_⟩
    rw [Handle.processes_closeIn, Control.find?_interrupt, if_neg fun h => hne h.2]
  stopped ps ignores hguarded hfind := by
    rw [Handle.processes_closeIn, Control.find?_interrupt, if_pos ⟨hguarded, rfl⟩, hfind]
    cases ignores <;> rfl
  session c hs := by
    subst hs
    exact sessionEnd_of_opened hopen
  sessionless hplain := by
    have hnone : h.session = none := sessionless_of_tunnel hplain hopen
    refine ⟨hnone, fun ps => ?_, _, h.parse_text_of_none hnone, rfl⟩
    rw [Handle.calls_closeIn, hnone]
    rfl

/-- Sessions are granted in one account only, whose profile has an empty name. -/
def oneAccount : Connector := fun account =>
  if account = ⟨"eu-west-1", some "", none⟩ then
    ⟨fun _ => .ok ⟨"s-1", "token", "wss://stream"⟩, fun _ => .ok ()⟩
  else ⟨fun _ => .error (.preflight "denied"), fun _ => .error (.teardown ["denied"])⟩

theorem close_undoes_open_portless :
    (tunnel hospitable (connected oneAccount remote.reach) (fun _ => .ok 40000) ⟨{}, {}⟩
      (.session portless)).result =
        .ok ⟨"localhost", 40000, 1000, "/tmp/ssm-tunnel-i-0abc-5432.log",
          some ⟨"s-1", "eu-west-1", some "", none⟩⟩ ∧
      CloseOutcome hospitable oneAccount remote.reach (fun _ => .ok 40000) ⟨{}, {}⟩
        (.session portless) ⟨"localhost", 40000, 1000, "/tmp/ssm-tunnel-i-0abc-5432.log",
          some ⟨"s-1", "eu-west-1", some "", none⟩⟩ :=
  ⟨by rfl, close_undoes_open hospitable oneAccount _ _ _ _ _ (by rfl)⟩

end Open

end PortTunnel
