import PortTunnel.Session.Broker

/-!
# Registries of sessions

A broker is connected with the parameters of an account and knows the sessions of that account
only, so a session has to be ended by a broker that is connected as the one that started it.

* `Session.Account`: the parameters.
* `Session.Registry`: where sessions are ended; `Registry.ofReceipt?` that of a tunnel.
* `Registry.brokerFor`: the broker by which a registry ends a session.
-/

namespace PortTunnel.Session

/-- What a broker is connected with. -/
structure Account where
  region : String
  profile : Option String
  roleArn : Option String
  deriving DecidableEq, Repr

abbrev Connector := Account → Broker

/-- The account that sessions are started in. -/
def Settings.account (s : Settings) : Account := ⟨s.region, s.profile, s.roleArn⟩

/-- Sessions are ended in their region by whoever a profile and a role stand for, or all by one
broker. -/
inductive Registry where
  | credentials (profile roleArn : Option String)
  | fixed (broker : Broker)

namespace Registry

/-- The registry of a tunnel, by the receipt of its session if there is one. -/
def ofReceipt? : Option Receipt → Registry
  | some receipt => .credentials receipt.profile receipt.roleArn
  | none => .credentials none none

def broker (connect : Connector) (region : String) : Registry → Broker
  | .credentials profile roleArn => connect ⟨region, profile, roleArn⟩
  | .fixed broker => broker

/-- The broker that ends the session of a receipt. -/
def brokerFor (connect : Connector) (registry : Registry) (receipt : Receipt) : Broker :=
  registry.broker connect receipt.region

end Registry

end PortTunnel.Session
