import PortTunnel.Error
import PortTunnel.Machine.Network

/-!
# Listeners

* `Listener`: an address and a port on which connections are accepted.
* `Listener.bind`: listens on a host, if the network lets it.
-/

namespace PortTunnel.Forward

open Machine (Address Network)

structure Listener where
  address : Address
  port : UInt16
  deriving DecidableEq, Repr

namespace Listener

def bind (n : Network) (host : String) (port : UInt16) : Except Error Listener :=
  match n.listen host with
  | .ok address => .ok ⟨address, port⟩
  | .error f => .error (.engine s!"cannot listen on {host}:{port.toNat}: {f.message}")

theorem bind_engines (n : Network) (host : String) (port : UInt16) :
    Error.OnlyEngines (bind n host port) := by
  rw [bind]
  split
  · exact .ok _
  · exact .error rfl

def text (l : Listener) : String := s!"{l.address.text}:{l.port.toNat}"

end Listener

end PortTunnel.Forward
