import PortTunnel.Json.Reader

/-!
# Replies of services

* `Reply`: a status with a text.
* `Reply.document?`: the document in the reply to a request that went well.
-/

namespace PortTunnel.Machine

structure Reply where
  status : Nat
  body : String
  deriving DecidableEq, Repr

namespace Reply

def isSuccess (r : Reply) : Bool := r.status < 400

def json? (r : Reply) : Option Json := (Json.parse r.body.toList).toOption

def document? (r : Reply) : Option Json := if r.isSuccess then r.json? else none

end Reply

end PortTunnel.Machine
