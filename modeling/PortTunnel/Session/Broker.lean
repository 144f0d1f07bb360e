import PortTunnel.Error
import PortTunnel.Session.Request

/-!
# Brokers of sessions

* `Session.Broker`: whoever starts and ends sessions.
* `Session.Talk`: what is done with a broker, with its calls on record.
* `Session.preflight`: starts the session of a tunnel; whatever the broker reports is
  reported as a failed check.
-/

namespace PortTunnel.Session

structure Broker where
  start : Request → Except Error Grant
  terminate : (sessionId : String) → Except Error Unit

/-- A call that a broker received. -/
inductive Call where
  | start (request : Request)
  | terminate (sessionId : String)
  deriving DecidableEq, Repr

/-- What comes of talking to a broker, on the record of the calls so far. -/
abbrev Talk := StateM (List Call)

def Broker.startSession (b : Broker) (request : Request) : Talk (Except Error Grant) := do
  modify (· ++ [.start request])
  return b.start request

def Broker.endSession (b : Broker) (sessionId : String) : Talk (Except Error Unit) := do
  modify (· ++ [.terminate sessionId])
  return b.terminate sessionId

/-- The error of a start, as one of the check before the launch. -/
def startError : Error → Error
  | .preflight text => .preflight text
  | e => .preflight e.message

def Broker.preflight (b : Broker) (s : Settings) : Talk (Except Error Assignment) := do
  match ← b.startSession (.ofSettings s) with
  | .ok grant => return .ok ⟨s, grant⟩
  | .error e => return .error (startError e)

def preflight (b : Broker) (s : Settings) : Except Error Assignment := (b.preflight s []).1

/-- The calls that the check makes. -/
def preflightCalls (s : Settings) : List Call := [.start (.ofSettings s)]

theorem preflight_run (b : Broker) (s : Settings) (calls : List Call) :
    b.preflight s calls = (preflight b s, calls ++ preflightCalls s) := by
  simp only [preflight, Broker.preflight, Broker.startSession]
  cases hstart : b.start (.ofSettings s) <;> rfl

end PortTunnel.Session
