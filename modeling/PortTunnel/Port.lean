import PortTunnel.Machine.Fault
import PortTunnel.Settings

/-!
# Local ports

* `Port.resolve`: a port that is given, or a free one in place of none.
* `prepare`: settings that were checked and whose local port is known.
-/

namespace PortTunnel

/-- Finds a free port on a host. -/
abbrev Allocator := (host : String) → Except Machine.Fault UInt16

def Port.resolve (allocate : Allocator) (host : String) (port : UInt16) : Except Error UInt16 :=
  if port = 0 then
    (allocate host).mapError fun f =>
      .config s!"cannot allocate a local port on {host}: {f.message}"
  else .ok port

def prepare (allocate : Allocator) (s : Settings) : Except Error Settings := do
  s.validate
  let port ← Port.resolve allocate s.localHost s.localPort
  .ok (s.withLocalPort port)

end PortTunnel
