import PortTunnel.Open

/-!
# No session is left behind

A session that a broker starts costs something until it is ended, so opening a tunnel has to
account for it on every way out.

* `launch_result`: when the launch of a worker succeeds, and with which handle.
* `SessionAccount`: what is owed to a broker and to the caller after an attempt.
* `session_in_handle_or_ended`: every attempt to open a tunnel through a session settles this.
-/

namespace PortTunnel.Open

open Launcher (System)

variable (pad : Launchpad) (broker : Session.Broker) (sys : System) (l : Lifecycle)
  (s : Session.Settings)

/-! ## Launching -/

theorem admits_ready {stage : Stage} : stage.admits .ready ↔ stage = .starting := by
  cases stage <;> decide

/-- A worker that is up is of use only where the tunnel is waiting for it. -/
theorem launch_result (a : Assignment) (h : Handle) :
    (launch pad sys l a).result = .ok h ↔
      l.stage = .starting ∧
        ∃ worker, (Launcher.fork pad.toMeans sys a pad.options).2 = .ok worker ∧
          handleOf worker = h := by
  rw [launch, ← admits_ready]
  cases hfork : Launcher.fork pad.toMeans sys a pad.options with
  | mk after outcome =>
    cases outcome with
    | error e => simp
    | ok worker =>
      by_cases hready : l.stage.admits .ready
      · simp [Lifecycle.transition, hready]
      · simp [Lifecycle.transition, hready]

/-! ## The ways out -/

/-- The launch of the worker of a session that was granted. -/
def launched (grant : Session.Grant) : Outcome := launch pad sys l (.session ⟨s, grant⟩)

variable {pad broker sys l s}

theorem preflight_granted {grant : Session.Grant}
    (hstart : broker.start (.ofSettings s) = .ok grant) :
    Session.preflight broker s = .ok ⟨s, grant⟩ := by
  simp only [Session.preflight, Session.Broker.preflight, Session.Broker.startSession, hstart]
  rfl

theorem preflight_refused {e : Error} (hstart : broker.start (.ofSettings s) = .error e) :
    Session.preflight broker s = .error (Session.startError e) := by
  simp only [Session.preflight, Session.Broker.preflight, Session.Broker.startSession, hstart]
  rfl

theorem session_refused {e : Error} (hstart : broker.start (.ofSettings s) = .error e) :
    session pad broker sys l s =
      { system := sys, lifecycle := l, sessionCalls := [.start (.ofSettings s)]
        result := .error (Session.startError e) } := by
  rw [session, sessionTalk]
  simp only [bind, StateT.bind, Session.preflight_run, preflight_refused hstart]
  rfl

theorem session_kept {grant : Session.Grant} {h : Handle}
    (hstart : broker.start (.ofSettings s) = .ok grant)
    (hlaunch : (launched pad sys l s grant).result = .ok h) :
    session pad broker sys l s =
      { launched pad sys l s grant with
        sessionCalls := [.start (.ofSettings s)]
        result := .ok { h with session := some (s.receipt grant.sessionId) } } := by
  rw [launched] at hlaunch
  rw [session, sessionTalk]
  simp only [bind, StateT.bind, Session.preflight_run, preflight_granted hstart, hlaunch]
  rfl

theorem session_rolledBack {grant : Session.Grant} {e : Error}
    (hstart : broker.start (.ofSettings s) = .ok grant)
    (hlaunch : (launched pad sys l s grant).result = .error e) :
    session pad broker sys l s =
      { launched pad sys l s grant with
        sessionCalls := [.start (.ofSettings s), .terminate grant.sessionId]
        result := .error e } := by
  rw [launched] at hlaunch
  rw [session, sessionTalk]
  simp only [bind, StateT.bind, Session.preflight_run, preflight_granted hstart, hlaunch]
  rfl

/-! ## The account -/

/-- Whether a handle was returned that names a session. -/
def Carries (o : Outcome) (sessionId : String) : Prop :=
  ∃ h receipt, o.result = .ok h ∧ h.session = some receipt ∧ receipt.sessionId = sessionId

/-- The requests to start a session among the calls that a broker received. -/
def startsOf (calls : List Session.Call) : List Session.Request :=
  calls.filterMap fun
    | .start request => some request
    | .terminate _ => none

/-- The sessions that a broker was asked to end, once for each time. -/
def endsOf (calls : List Session.Call) : List String :=
  calls.filterMap fun
    | .start _ => none
    | .terminate sessionId => some sessionId

/-- What an attempt to open a tunnel owes to the broker of its session and to the caller. -/
structure SessionAccount (pad : Launchpad) (broker : Session.Broker) (sys : System) (l : Lifecycle)
    (s : Session.Settings) (o : Outcome) : Prop where
  /-- One session is asked for, the one of the settings. -/
  asked : startsOf o.sessionCalls = [.ofSettings s]
  /-- Without a session nothing is started and nothing is ended. -/
  refused : ∀ e, broker.start (.ofSettings s) = .error e →
    endsOf o.sessionCalls = [] ∧ o.system = sys ∧ o.lifecycle = l ∧
      ∃ text, o.result = .error (.preflight text) ∧
        (e = .preflight text ∨ (∀ own, e ≠ .preflight own) ∧ text = e.message)
  /-- A session whose worker is up is handed on. -/
  kept : ∀ grant h, broker.start (.ofSettings s) = .ok grant →
    (launch pad sys l (.session ⟨s, grant⟩)).result = .ok h →
      endsOf o.sessionCalls = [] ∧
        o.result = .ok { h with session := some ⟨grant.sessionId, s.region, s.profile, s.roleArn⟩ }
  /-- A session whose worker is not up is ended, whatever comes of that. -/
  rolledBack : ∀ grant e, broker.start (.ofSettings s) = .ok grant →
    (launch pad sys l (.session ⟨s, grant⟩)).result = .error e →
      o.sessionCalls = [.start (.ofSettings s), .terminate grant.sessionId] ∧ o.result = .error e
  /-- A session that was started is in the handle, or else its end was asked for. -/
  noneLost : ∀ grant, broker.start (.ofSettings s) = .ok grant →
    (Carries o grant.sessionId ∧ endsOf o.sessionCalls = []) ∨
      (¬ Carries o grant.sessionId ∧ endsOf o.sessionCalls = [grant.sessionId])

theorem startError_eq (e : Error) :
    ∃ text, Session.startError e = .preflight text ∧
      (e = .preflight text ∨ (∀ own, e ≠ .preflight own) ∧ text = e.message) := by
  cases e with
  | preflight text => exact ⟨text, rfl, .inl rfl⟩
  | _ => exact ⟨_, rfl, .inr ⟨fun _ h => (nomatch h), rfl⟩⟩

theorem account_of_refused {e : Error} (hstart : broker.start (.ofSettings s) = .error e) :
    SessionAccount pad broker sys l s (session pad broker sys l s) := by
  have hno : ∀ grant, broker.start (.ofSettings s) ≠ .ok grant := by
    intro grant hgrant
    rw [hstart] at hgrant
    cases hgrant
  rw [session_refused hstart]
  constructor
  · rfl
  · intro e' he'
    rw [hstart] at he'
    cases he'
    obtain ⟨text, herror, htext⟩ := startError_eq e
    exact ⟨rfl, rfl, rfl, text, congrArg Except.error herror, htext⟩
  · exact fun grant _ hgrant => absurd hgrant (hno grant)
  · exact fun grant _ hgrant => absurd hgrant (hno grant)
  · exact fun grant hgrant => absurd hgrant (hno grant)

theorem account_of_kept {grant : Session.Grant} {h : Handle}
    (hstart : broker.start (.ofSettings s) = .ok grant)
    (hlaunch : (launched pad sys l s grant).result = .ok h) :
    SessionAccount pad broker sys l s (session pad broker sys l s) := by
  rw [session_kept hstart hlaunch]
  constructor
  · rfl
  · intro e he
    rw [hstart] at he
    cases he
  · intro grant' h' hgrant hresult
    rw [hstart] at hgrant
    cases hgrant
    rw [launched, hresult] at hlaunch
    cases hlaunch
    exact ⟨rfl, rfl⟩
  · intro grant' e hgrant hresult
    rw [hstart] at hgrant
    cases hgrant
    rw [launched, hresult] at hlaunch
    cases hlaunch
  · intro grant' hgrant
    rw [hstart] at hgrant
    cases hgrant
    exact .inl ⟨⟨_, _, rfl, rfl, rfl⟩, rfl⟩

theorem account_of_rolledBack {grant : Session.Grant} {e : Error}
    (hstart : broker.start (.ofSettings s) = .ok grant)
    (hlaunch : (launched pad sys l s grant).result = .error e) :
    SessionAccount pad broker sys l s (session pad broker sys l s) := by
  rw [session_rolledBack hstart hlaunch]
  constructor
  · rfl
  · intro e' he
    rw [hstart] at he
    cases he
  · intro grant' h hgrant hresult
    rw [hstart] at hgrant
    cases hgrant
    rw [launched, hresult] at hlaunch
    cases hlaunch
  · intro grant' e' hgrant hresult
    rw [hstart] at hgrant
    cases hgrant
    rw [launched, hresult] at hlaunch
    cases hlaunch
    exact ⟨rfl, rfl⟩
  · intro grant' hgrant
    rw [hstart] at hgrant
    cases hgrant
    refine .inr ⟨?_, rfl⟩
    rintro ⟨h, receipt, hresult, -⟩
    cases hresult

theorem session_in_handle_or_ended (pad : Launchpad) (broker : Session.Broker) (sys : System)
    (l : Lifecycle) (s : Session.Settings) :
    SessionAccount pad broker sys l s (session pad broker sys l s) := by
  cases hstart : broker.start (.ofSettings s) with
  | error e => exact account_of_refused hstart
  | ok grant =>
    cases hlaunch : (launched pad sys l s grant).result with
    | ok h => exact account_of_kept hstart hlaunch
    | error e => exact account_of_rolledBack hstart hlaunch

end PortTunnel.Open
