import PortTunnel.Session.Broker

/-!
# Brokers by way of the service

The session service is talked to with a library, which sends what it is told and reads what is
answered. What is made of its answers is decided here.

* `Session.StartReply`: what is read of the answer to the start of a session.
* `Session.Sdk`: the library.
* `Session.Sdk.broker`: the library as a broker of sessions.
-/

namespace PortTunnel.Session

/-- The texts of an answer to the start of a session, each of which may be missing. -/
structure StartReply where
  sessionId : Option String
  tokenValue : Option String
  streamUrl : Option String
  deriving DecidableEq, Repr

/-- What a library for the session service does. A refusal is in its own words. -/
structure Sdk where
  start : Request → Except String StartReply
  terminate : (sessionId : String) → Except String Unit

/-- The session of an answer; the first text that is missing is reported. -/
def StartReply.grant (r : StartReply) : Except Error Grant := do
  let present (name : String) : Option String → Except Error String
    | some s => .ok s
    | none => .error (.preflight s!"StartSession returned no {name}")
  .ok ⟨← present "SessionId" r.sessionId, ← present "TokenValue" r.tokenValue,
    ← present "StreamUrl" r.streamUrl⟩

def Sdk.broker (sdk : Sdk) : Broker where
  start request :=
    match sdk.start request with
    | .ok reply => reply.grant
    | .error text => .error (.preflight text)
  terminate sessionId :=
    match sdk.terminate sessionId with
    | .ok _ => .ok ()
    | .error text => .error (.teardown [text])

end PortTunnel.Session
