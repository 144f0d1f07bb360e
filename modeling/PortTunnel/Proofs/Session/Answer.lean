import PortTunnel.Proofs.Leftover
import PortTunnel.Session.Client

/-!
# Sessions of partial answers

The service says in its answer which session it has started, and gives what is needed to take part
in it. An answer without all of that is refused where it is read, before anybody knows that there is
a session to be ended: the session goes on. A session of a whole answer is never lost.

* `Session.Sdk.Started`, `Session.Sdk.Granted`: a session that the service speaks of, and one that
  it gives all of.
* `Open.Ended`: the service is told to end a session; `Session.Client.hears_end_iff`.
* `Open.SessionFate`: what becomes of the session that the service speaks of.
* `Open.session_ended_iff_granted`: this becomes of it, whatever the service answers and whatever
  comes of the launch. `partial_answer_loses` shows a session that is lost.
-/

namespace PortTunnel

open Machine (Reply)

/-! ## Answers -/

namespace Session

theorem grant_eq_ok_iff {answer : StartReply} {grant : Grant} : answer.grant = .ok grant ↔
    answer = ⟨some grant.sessionId, some grant.tokenValue, some grant.streamUrl⟩ := by
  obtain ⟨sessionId | sessionId, token | token, url | url⟩ := answer <;>
    obtain ⟨_, _, _⟩ := grant <;> simp [StartReply.grant, bind, Except.bind]

theorem grant_eq_error {answer : StartReply} {e : Error} (h : answer.grant = .error e) :
    ∃ text, e = .preflight text := by
  obtain ⟨sessionId | sessionId, token | token, url | url⟩ := answer <;> cases h <;> exact ⟨_, rfl⟩

namespace Sdk

variable {sdk : Sdk} {s : Settings} {sessionId : String} {grant : Grant}

/-- What the service answers to the start of a session. -/
def Answered (sdk : Sdk) (s : Settings) (answer : StartReply) : Prop :=
  sdk.start (.ofSettings s) = .ok answer

/-- The service has started a session and says which, whatever else its answer holds. -/
def Started (sdk : Sdk) (s : Settings) (sessionId : String) : Prop :=
  ∃ token url, sdk.Answered s ⟨some sessionId, token, url⟩

/-- The service gives all that is needed to take part in the session. -/
def Granted (sdk : Sdk) (s : Settings) (grant : Grant) : Prop :=
  sdk.Answered s ⟨some grant.sessionId, some grant.tokenValue, some grant.streamUrl⟩

/-- The session that is given is the one that the service speaks of. -/
theorem Granted.started (h : sdk.Granted s grant) : sdk.Started s grant.sessionId := ⟨_, _, h⟩

theorem Started.eq {other : String} (h : sdk.Started s sessionId) (hother : sdk.Started s other) :
    sessionId = other := by
  obtain ⟨token, url, hanswer⟩ := h
  obtain ⟨token', url', hanswer'⟩ := hother
  cases hanswer.symm.trans hanswer'
  rfl

/-! ## The library as a broker -/

theorem start_of_answered {answer : StartReply} (h : sdk.Answered s answer) :
    sdk.broker.start (.ofSettings s) = answer.grant := by
  rw [Answered] at h
  simp only [broker, h]

theorem start_of_refused {text : String} (h : sdk.start (.ofSettings s) = .error text) :
    sdk.broker.start (.ofSettings s) = .error (.preflight text) := by
  simp only [broker, h]

theorem start_eq_ok_iff : sdk.broker.start (.ofSettings s) = .ok grant ↔ sdk.Granted s grant := by
  constructor
  · intro h
    cases hanswer : sdk.start (.ofSettings s) with
    | error text =>
      rw [start_of_refused hanswer] at h
      cases h
    | ok answer =>
      rw [start_of_answered hanswer, grant_eq_ok_iff] at h
      rw [Granted, Answered, hanswer, h]
  · intro h
    rw [start_of_answered h, grant_eq_ok_iff]

theorem start_eq_error {e : Error} (h : sdk.broker.start (.ofSettings s) = .error e) :
    ∃ text, e = .preflight text := by
  cases hanswer : sdk.start (.ofSettings s) with
  | error text =>
    rw [start_of_refused hanswer] at h
    exact ⟨text, (Except.error.inj h).symm⟩
  | ok answer => exact grant_eq_error (start_of_answered hanswer ▸ h)

end Sdk

namespace Client

variable {c : Client} {sessionId : String}

/-! ## What the service is told -/

theorem mem_sent {service : Service} {m n : Message} : m ∈ sent service n ↔ m = n := by
  rw [sent, List.mem_replicate, and_iff_right_iff_imp]
  intro
  split <;> decide

theorem mem_told {service : Service} {calls : List Call} {assumed : Bool} :
    .terminate sessionId assumed ∈ calls.flatMap (fun call => sent service (c.message call)) ↔
      assumed = c.assumes ∧ .terminate sessionId ∈ calls := by
  simp only [List.mem_flatMap, mem_sent]
  constructor
  · rintro ⟨call, hcall, hm⟩
    cases call with
    | start => cases hm
    | terminate =>
      cases hm
      exact ⟨rfl, hcall⟩
  · rintro ⟨rfl, hcall⟩
    exact ⟨_, hcall, rfl⟩

/-- An answer to the start of a session comes from a reply of the service. -/
theorem reply_of_answered {s : Settings} {answer : StartReply} (h : c.sdk.Answered s answer) :
    ∃ reply, c.send (.start (.ofSettings s) c.assumes) = .ok reply := by
  change ((c.send (.start (.ofSettings s) c.assumes)).bind readStart).mapError Trouble.message =
    .ok answer at h
  cases hsend : c.send (.start (.ofSettings s) c.assumes) with
  | ok reply => exact ⟨reply, rfl⟩
  | error trouble =>
    rw [hsend] at h
    cases h

theorem identify_of_reply {m : Message} {reply : Reply} {service : Service}
    (hservice : c.service = some service) (hreply : c.send m = .ok reply) :
    c.identify service = .ok () := by
  rw [send, hservice] at hreply
  cases hidentify : c.identify service with
  | ok _ => rfl
  | error trouble =>
    simp only [bind, Except.bind, hidentify] at hreply
    cases hreply

/-- Whoever got a reply is heard by the service. -/
theorem mem_messages_of_reply {m : Message} {reply : Reply} {calls : List Call}
    (hreply : c.send m = .ok reply) (hcall : .terminate sessionId ∈ calls) :
    .terminate sessionId c.assumes ∈ c.messages calls := by
  cases hservice : c.service with
  | none =>
    rw [send, hservice] at hreply
    cases hreply
  | some service =>
    have htold : .terminate sessionId c.assumes ∈
        calls.flatMap fun call => sent service (c.message call) := mem_told.mpr ⟨rfl, hcall⟩
    have hsome : ¬ calls.isEmpty = true := by
      intro hempty
      rw [List.isEmpty_iff.mp hempty] at hcall
      cases hcall
    simp only [messages, hservice, identify_of_reply hservice hreply, if_neg hsome]
    split
    · exact htold
    · exact List.mem_append_right _ htold

/-- The service is told of no end that is not among the calls. -/
theorem mem_calls_of_messages {calls : List Call} {assumed : Bool}
    (h : .terminate sessionId assumed ∈ c.messages calls) : .terminate sessionId ∈ calls := by
  rw [messages] at h
  cases hservice : c.service with
  | none => simp [hservice] at h
  | some service =>
    suffices h : Message.terminate sessionId assumed ∈
        calls.flatMap fun call => sent service (c.message call) from (mem_told.mp h).2
    have hother {arn : String} : .terminate sessionId assumed ∉ sent service (.assumeRole arn) :=
      fun hmem => nomatch mem_sent.mp hmem
    simp only [hservice] at h
    split at h
    · exact h
    · split at h
      · split at h
        · cases h
        · exact (List.mem_append.mp h).resolve_left hother
      · obtain ⟨_, -, hmem⟩ := List.mem_flatMap.mp h
        exact absurd hmem hother

/-- The service is told of the ends that are among the calls, if it has replied before. -/
theorem hears_end_iff {m : Message} {reply : Reply} {calls : List Call}
    (hreply : c.send m = .ok reply) :
    .terminate sessionId c.assumes ∈ c.messages calls ↔ .terminate sessionId ∈ calls :=
  ⟨mem_calls_of_messages, mem_messages_of_reply hreply⟩

end Client

end Session

/-! ## Opening a tunnel through the library -/

namespace Open

open Launcher (System)
open Session (Sdk)

/-- The service is told to end a session. -/
def Ended (o : Outcome) (sessionId : String) : Prop := .terminate sessionId ∈ o.sessionCalls

/-- What becomes of the session that the service speaks of. -/
structure SessionFate (sdk : Sdk) (sys : System) (s : Session.Settings) (o : Outcome) : Prop where
  /-- A session of a whole answer is handed on and lives, or else it is ended, and no other is. -/
  whole : ∀ grant, sdk.Granted s grant →
    Carries o grant.sessionId ∧ (∀ sessionId, ¬ Ended o sessionId) ∨
      (¬ ∃ h, o.result = .ok h) ∧ ∀ sessionId, Ended o sessionId ↔ sessionId = grant.sessionId
  /-- A session of a partial answer is refused, and nobody ends it. -/
  lost : ∀ sessionId, sdk.Started s sessionId → (∀ grant, ¬ sdk.Granted s grant) →
    o.system = sys ∧ (∃ text, o.result = .error (.preflight text)) ∧ ∀ other, ¬ Ended o other
  /-- A session is accounted for if and only if its answer is whole. -/
  exact : ∀ sessionId, sdk.Started s sessionId →
    ((Carries o sessionId ∨ Ended o sessionId) ↔ ∃ grant, sdk.Granted s grant)
  /-- What is missing of an answer is reported, the token before the address. -/
  named : ∀ sessionId token url, sdk.Answered s ⟨some sessionId, token, url⟩ →
    (token = none → o.result = .error (.preflight "StartSession returned no TokenValue")) ∧
    (token.isSome → url = none →
      o.result = .error (.preflight "StartSession returned no StreamUrl"))
  /-- An attempt that fails without an end had no session of a whole answer. -/
  silent : ∀ e, o.result = .error e → (∀ sessionId, ¬ Ended o sessionId) →
    ∀ grant, ¬ sdk.Granted s grant
  /-- By way of a client, the service hears of the sessions that are to end, and of no other. -/
  heard : ∀ c : Session.Client, c.sdk = sdk → ∀ answer, sdk.Answered s answer →
    ∀ sessionId, .terminate sessionId c.assumes ∈ c.messages o.sessionCalls ↔ Ended o sessionId

variable {sdk : Sdk} {s : Session.Settings} {grant : Session.Grant}

theorem not_carries_of_error {o : Outcome} {e : Error} (h : o.result = .error e)
    (sessionId : String) : ¬ Carries o sessionId := by
  rintro ⟨handle, _, hok, -⟩
  rw [h] at hok
  cases hok

section

variable (pad : Launchpad) (sys : System) (l : Lifecycle)

theorem fate_of_granted (h : sdk.Granted s grant) :
    Carries (session pad sdk.broker sys l s) grant.sessionId ∧
        (∀ sessionId, ¬ Ended (session pad sdk.broker sys l s) sessionId) ∨
      (¬ ∃ h, (session pad sdk.broker sys l s).result = .ok h) ∧
        ∀ sessionId, Ended (session pad sdk.broker sys l s) sessionId ↔
          sessionId = grant.sessionId := by
  have hstart := Sdk.start_eq_ok_iff.mpr h
  cases hlaunch : (launched pad sys l s grant).result with
  | ok handle =>
    rw [session_kept hstart hlaunch]
    exact .inl ⟨⟨_, _, rfl, rfl, rfl⟩, by simp [Ended]⟩
  | error e =>
    rw [session_rolledBack hstart hlaunch]
    exact .inr ⟨nofun, by simp [Ended]⟩

/-- Without a session the attempt ends where it has begun. -/
theorem fate_of_not_granted (h : ∀ grant, ¬ sdk.Granted s grant) :
    (session pad sdk.broker sys l s).system = sys ∧
      (∃ text, (session pad sdk.broker sys l s).result = .error (.preflight text)) ∧
      ∀ sessionId, ¬ Ended (session pad sdk.broker sys l s) sessionId := by
  cases hstart : sdk.broker.start (.ofSettings s) with
  | ok grant => exact absurd (Sdk.start_eq_ok_iff.mp hstart) (h grant)
  | error e =>
    obtain ⟨text, rfl⟩ := Sdk.start_eq_error hstart
    rw [session_refused hstart]
    exact ⟨rfl, ⟨text, rfl⟩, by simp [Ended]⟩

theorem accounted_iff_granted {sessionId : String} (h : sdk.Started s sessionId) :
    (Carries (session pad sdk.broker sys l s) sessionId ∨
        Ended (session pad sdk.broker sys l s) sessionId) ↔ ∃ grant, sdk.Granted s grant := by
  constructor
  · intro haccounted
    apply Classical.byContradiction
    intro hnone
    obtain ⟨-, ⟨text, herror⟩, hended⟩ := fate_of_not_granted pad sys l (not_exists.mp hnone)
    exact haccounted.elim (not_carries_of_error herror sessionId) (hended sessionId)
  · rintro ⟨grant, hgrant⟩
    obtain rfl := h.eq hgrant.started
    obtain ⟨hcarries, -⟩ | ⟨-, hended⟩ := fate_of_granted pad sys l hgrant
    · exact .inl hcarries
    · exact .inr ((hended _).mpr rfl)

theorem result_of_answered {answer : Session.StartReply} {text : String}
    (h : sdk.Answered s answer) (htext : answer.grant = .error (.preflight text)) :
    (session pad sdk.broker sys l s).result = .error (.preflight text) := by
  rw [session_refused ((Sdk.start_of_answered h).trans htext)]
  rfl

end

theorem session_ended_iff_granted (pad : Launchpad) (sdk : Sdk) (sys : System) (l : Lifecycle)
    (s : Session.Settings) : SessionFate sdk sys s (session pad sdk.broker sys l s) where
  whole _ := fate_of_granted pad sys l
  lost _ _ := fate_of_not_granted pad sys l
  exact _ := accounted_iff_granted pad sys l
  named := by
    intro sessionId token url h
    constructor
    · rintro rfl
      exact result_of_answered pad sys l h rfl
    · rintro htoken rfl
      obtain ⟨token, rfl⟩ := Option.isSome_iff_exists.mp htoken
      exact result_of_answered pad sys l h rfl
  silent := by
    intro e herror hnone grant h
    have haccounted := (accounted_iff_granted pad sys l h.started).mpr ⟨grant, h⟩
    exact haccounted.elim (not_carries_of_error herror _) (hnone _)
  heard := by
    rintro c rfl answer hanswer sessionId
    obtain ⟨_, hreply⟩ := Session.Client.reply_of_answered hanswer
    exact Session.Client.hears_end_iff hreply

/-! ## A session that is lost -/

/-- A service that starts sessions and leaves out their tokens. -/
def tokenless : Sdk where
  start _ := .ok ⟨some "sess-1", none,
    some "wss://ssmmessages.eu-west-1.amazonaws.com/v1/data-channel/sess-1"⟩
  terminate _ := .ok ()

def db : Session.Settings := ⟨"i-0abc", "eu-west-1", none, none, "db.internal", 5432, 15433, none⟩

/-- A session is started, and it is neither in a handle nor ended. -/
theorem partial_answer_loses :
    let o := session hospitable tokenless.broker ⟨{}, {}⟩ ⟨.starting⟩ db
    tokenless.Started db "sess-1" ∧ ¬ Carries o "sess-1" ∧ ¬ Ended o "sess-1" := by
  have hnone : ∀ grant, ¬ tokenless.Granted db grant := by
    simp [Sdk.Granted, Sdk.Answered, tokenless]
  obtain ⟨-, ⟨text, herror⟩, hended⟩ :=
    fate_of_not_granted hospitable ⟨{}, {}⟩ ⟨.starting⟩ hnone
  exact ⟨⟨_, _, rfl⟩, not_carries_of_error herror _, hended _⟩

end Open

end PortTunnel
