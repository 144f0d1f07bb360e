import PortTunnel.Teardown

/-!
# What a teardown reports

A tunnel is closed by two steps that do not wait for each other to go well, and what went wrong
with either is reported once both were taken.

* `closeBy_eq`: a teardown as a whole, from the answers to its two steps.
* `TeardownReport`: what is owed to the caller of a teardown.
* `closeBy_reports_failures`: every teardown owes it. An end that is refused without a word counts
  as one that went well, which `wordless_refusal_passes` shows.
-/

namespace PortTunnel.Teardown

open Machine (Processes)

/-! ## Lines of a report -/

/-- Whether a worker is stopped as far as it can be told to: it was interrupted, or is gone. -/
def Stopped (interrupted : Except Error Unit) : Prop :=
  interrupted = .ok () ∨ ∃ gone, interrupted = .error (.noProcess gone)

/-- The words in which a step says why it failed: its own list, or itself as one line. -/
def words : Except Error Unit → List String
  | .ok _ => []
  | .error (.teardown failures) => failures
  | .error e => [e.message]

theorem interruptFailures_of_stopped {pid : Nat} {interrupted : Except Error Unit}
    (h : Stopped interrupted) : interruptFailures pid interrupted = [] := by
  rcases h with rfl | ⟨gone, rfl⟩ <;> rfl

theorem interruptFailures_of_refused {pid : Nat} {e : Error} (h : ¬ Stopped (.error e)) :
    interruptFailures pid (.error e) =
      [s!"cannot interrupt tunnel process {pid}: {e.message}"] := by
  cases e with
  | noProcess gone => exact absurd (.inr ⟨gone, rfl⟩) h
  | _ => rfl

theorem interruptFailures_eq_nil {pid : Nat} {interrupted : Except Error Unit} :
    interruptFailures pid interrupted = [] ↔ Stopped interrupted := by
  refine ⟨fun hnil => ?_, interruptFailures_of_stopped⟩
  cases interrupted with
  | ok _ => exact .inl rfl
  | error e =>
    cases e with
    | noProcess gone => exact .inr ⟨gone, rfl⟩
    | _ => cases hnil

theorem sessionFailures_eq_map (sessionId : String) (ended : Except Error Unit) :
    sessionFailures sessionId ended =
      (words ended).map fun word => s!"cannot terminate session {sessionId}: {word}" := by
  cases ended with
  | ok _ => rfl
  | error e => cases e <;> rfl

theorem words_eq_nil {ended : Except Error Unit} :
    words ended = [] ↔ ended = .ok () ∨ ended = .error (.teardown []) := by
  cases ended with
  | ok _ => simp [words]
  | error e => cases e <;> simp [words]

theorem report_eq_ok {failures : List String} : report failures = .ok () ↔ failures = [] := by
  cases failures <;> simp [report]

theorem report_eq_error {failures : List String} {e : Error} :
    report failures = .error e ↔ failures ≠ [] ∧ e = .teardown failures := by
  cases failures <;> simp [report, eq_comm]

/-! ## The whole -/

variable (interrupter : Interrupter) (brokerFor : Session.Receipt → Session.Broker)
  (ps : Processes) (pid : Nat) (session : Option Session.Receipt)

/-- How the broker answers to the end of a session. -/
def answer (receipt : Session.Receipt) : Except Error Unit :=
  (brokerFor receipt).terminate receipt.sessionId

/-- A teardown by the answers to its steps, each of which is asked for once. -/
theorem closeBy_eq : closeBy interrupter brokerFor ps pid session =
    { processes := (interrupter ps pid).1
      attempts := [pid]
      calls := session.toList.map fun receipt => .terminate receipt.sessionId
      result := report (interruptFailures pid (interrupter ps pid).2 ++
        session.toList.flatMap fun receipt =>
          sessionFailures receipt.sessionId (answer brokerFor receipt)) } := by
  cases session with
  | none =>
    rw [Option.toList_none, List.flatMap_nil, List.append_nil]
    rfl
  | some receipt =>
    rw [Option.toList_some, List.flatMap_singleton]
    rfl

/-- What is owed to the caller of a teardown, by the answers to its two steps. -/
structure TeardownReport (pid : Nat) (session : Option Session.Receipt)
    (interrupted : Except Error Unit) (ended : Session.Receipt → Except Error Unit)
    (c : Closed) : Prop where
  attempted : c.attempts = [pid]
  /-- The end of the session is asked for once, whatever came of the interrupt. -/
  called : c.calls = session.toList.map fun receipt => .terminate receipt.sessionId
  /-- There is no report exactly if no step has anything to say. -/
  ok : c.result = .ok () ↔ Stopped interrupted ∧
    ∀ receipt ∈ session, ended receipt = .ok () ∨ ended receipt = .error (.teardown [])
  /-- A report has the lines of the interrupt first, and then those of the session. -/
  lines : c.result ≠ .ok () → ∃ first rest, c.result = .error (.teardown (first ++ rest)) ∧
    (Stopped interrupted → first = []) ∧
    (∀ e, interrupted = .error e → ¬ Stopped interrupted →
      first = [s!"cannot interrupt tunnel process {pid}: {e.message}"]) ∧
    (session = none → rest = []) ∧
    ∀ receipt ∈ session, rest =
      (words (ended receipt)).map fun word =>
        s!"cannot terminate session {receipt.sessionId}: {word}"
  /-- Success stands for that of both steps unless the end of the session is the only thing that
  failed, and without a word. -/
  honest : (c.result = .ok () ↔ Stopped interrupted ∧ ∀ receipt ∈ session, ended receipt = .ok ()) ↔
    ¬ (Stopped interrupted ∧ ∃ receipt ∈ session, ended receipt = .error (.teardown []))

theorem closeBy_reports_failures :
    TeardownReport pid session (interrupter ps pid).2 (answer brokerFor)
      (closeBy interrupter brokerFor ps pid session) := by
  rw [closeBy_eq]
  generalize (interrupter ps pid).2 = interrupted
  generalize answer brokerFor = ended
  have hok : report (interruptFailures pid interrupted ++ session.toList.flatMap fun receipt =>
      sessionFailures receipt.sessionId (ended receipt)) = .ok () ↔ Stopped interrupted ∧
        ∀ receipt ∈ session, ended receipt = .ok () ∨ ended receipt = .error (.teardown []) := by
    rw [report_eq_ok, List.append_eq_nil_iff, interruptFailures_eq_nil, List.flatMap_eq_nil_iff]
    simp only [Option.mem_toList, Option.mem_def, sessionFailures_eq_map, List.map_eq_nil_iff,
      words_eq_nil]
  constructor
  case attempted => rfl
  case called => rfl
  case ok => exact hok
  case lines =>
    intro hnot
    refine ⟨interruptFailures pid interrupted, session.toList.flatMap fun receipt =>
      sessionFailures receipt.sessionId (ended receipt), ?_, interruptFailures_of_stopped, ?_, ?_,
      ?_⟩
    · exact report_eq_error.mpr ⟨fun hnil => hnot (report_eq_ok.mpr hnil), rfl⟩
    · rintro e rfl hrefused
      exact interruptFailures_of_refused hrefused
    · rintro rfl
      rfl
    · intro receipt hreceipt
      cases hreceipt
      rw [Option.toList_some, List.flatMap_singleton, sessionFailures_eq_map]
  case honest =>
    rw [hok]
    constructor
    · rintro hiff ⟨hstopped, receipt, hreceipt, hwordless⟩
      have hpasses : ∀ r ∈ session, ended r = .ok () ∨ ended r = .error (.teardown []) := by
        intro r hr
        cases hr.symm.trans hreceipt
        exact .inr hwordless
      have hall := (hiff.mp ⟨hstopped, hpasses⟩).2
      rw [hall receipt hreceipt] at hwordless
      cases hwordless
    · intro hnone
      refine and_congr_right fun hstopped => forall₂_congr fun receipt hreceipt => ?_
      refine or_iff_left fun hwordless => hnone ⟨hstopped, receipt, hreceipt, hwordless⟩

/-- An end that was refused counts as one that went well if nothing is said about it. -/
theorem wordless_refusal_passes :
    ∃ broker : Session.Broker, broker.terminate "sess-1" = .error (.teardown []) ∧
      (close (fun _ => broker) {} 4294967288 (some ⟨"sess-1", "eu-west-1", none, none⟩)).result =
        .ok () :=
  ⟨⟨fun _ => .error default, fun _ => .error (.teardown [])⟩, rfl, rfl⟩

end PortTunnel.Teardown
