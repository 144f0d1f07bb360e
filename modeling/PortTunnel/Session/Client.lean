import PortTunnel.Machine.Reply
import PortTunnel.Session.Sdk

/-!
# Clients of the session service

Stands for the library where there is none. A client may have to assume a role first, once for all
that it asks for.

* `Session.Service`: how the service replies to messages.
* `Session.Client.sdk`: what is read from the replies.
* `Session.Client.messages`: what the service sees of calls.
-/

namespace PortTunnel.Session

open Machine (Reply)

/-- What the service is told; `assumed` says whether by an assumed role. -/
inductive Message where
  | assumeRole (arn : String)
  | start (request : Request) (assumed : Bool)
  | terminate (sessionId : String) (assumed : Bool)
  deriving DecidableEq, Repr

abbrev Service := Message → Reply

structure Client where
  /-- The role to assume, if any. -/
  role : Option String
  /-- The service, if it can be reached. -/
  service : Option Service

/-- Why the service did not do what it was told. -/
inductive Trouble where
  | unreachable
  | noRole
  | refused (status : Nat)
  | unreadable
  deriving DecidableEq, Repr

def Trouble.message : Trouble → String
  | .unreachable => "dispatch failure"
  | .noRole => "failed to load credentials"
  | .refused status => s!"service error: status {status}"
  | .unreadable => "response error"

/-- A text of a reply; null counts as missing. -/
def replyText? (name : String) (j : Json) : Except Trouble (Option String) :=
  match j.get? name with
  | none => .ok none
  | some .null => .ok none
  | some (.string s) => .ok (some s)
  | some _ => .error .unreadable

def isSuccess (r : Reply) : Bool := 200 ≤ r.status && r.status < 300

def readObject (r : Reply) : Except Trouble Json :=
  if !isSuccess r then .error (.refused r.status)
  else match r.json? with
    | some (.object members) => .ok (.object members)
    | _ => .error .unreadable

def readStart (r : Reply) : Except Trouble StartReply := do
  let j ← readObject r
  .ok ⟨← replyText? "SessionId" j, ← replyText? "TokenValue" j, ← replyText? "StreamUrl" j⟩

namespace Client

/-- Whether messages are sent by an assumed role. -/
def assumes (c : Client) : Bool := c.role.isSome

/-- Assumes the role, if there is one. -/
def identify (c : Client) (service : Service) : Except Trouble Unit :=
  match c.role with
  | none => .ok ()
  | some arn => if isSuccess (service (.assumeRole arn)) then .ok () else .error .noRole

def send (c : Client) (m : Message) : Except Trouble Reply := do
  match c.service with
  | none => .error .unreachable
  | some service =>
    c.identify service
    .ok (service m)

def sdk (c : Client) : Sdk where
  start request := ((c.send (.start request c.assumes)).bind readStart).mapError Trouble.message
  terminate sessionId :=
    ((c.send (.terminate sessionId c.assumes)).bind readObject).map (fun _ => ())
      |>.mapError Trouble.message

/-! ## What the service sees -/

/-- How often a message is sent at most, as long as the service is out of order. -/
def attempts : Nat := 3

def isOutOfOrder (r : Reply) : Bool := [500, 502, 503, 504].contains r.status

def sent (service : Service) (m : Message) : List Message :=
  List.replicate (if isOutOfOrder (service m) then attempts else 1) m

def message (c : Client) : Call → Message
  | .start request => .start request c.assumes
  | .terminate sessionId => .terminate sessionId c.assumes

/-- What the service sees of calls. A role that was assumed is kept; one that was refused is
asked for again by each call. -/
def messages (c : Client) (calls : List Call) : List Message :=
  match c.service with
  | none => []
  | some service =>
    let told := calls.flatMap fun call => sent service (c.message call)
    match c.role with
    | none => told
    | some arn =>
      let asked := sent service (.assumeRole arn)
      match c.identify service with
      | .ok _ => if calls.isEmpty then [] else asked ++ told
      | .error _ => calls.flatMap fun _ => asked

end Client

end PortTunnel.Session
