import PortTunnel.Cluster.Loading
import PortTunnel.Cluster.Patch
import PortTunnel.Cluster.Service
import PortTunnel.Schema.Reading

/-!
# The library for clusters

A cluster is reached with a library, whose configurations and clients are of no concern here. What
it is given, in which order it is asked, and how its refusals are reported is decided here.

* `Cluster.Toolkit`: what the library does.
* `Cluster.override`: a kubeconfig with the overrides of the settings.
* `Cluster.configure`: the configuration of a client for the settings of a tunnel.
* `Cluster.connect`: a client for them.
* `Cluster.Toolkit.api`, `Cluster.Toolkit.reach`: the questions that are put before a launch.
-/

namespace PortTunnel.Cluster

open Text (TextTable)

/-- What a client is told to select in a kubeconfig, as far as it is told. -/
structure Choice where
  context : Option String
  cluster : Option String
  user : Option String
  deriving DecidableEq, Repr

def Access.choice (a : Access) : Choice := ⟨a.context, a.contextCluster, a.contextUser⟩

/-- What a library for clusters does. A refusal is in its own words. -/
structure Toolkit (Config Client : Type) extends Kubeconfig.Library where
  /-- The configuration that the surroundings of the program suggest. -/
  infer : Except String Config
  /-- The configuration that a kubeconfig describes. -/
  configure : Kubeconfig → Choice → Except String Config
  create : Config → Except String Client
  /-- The labels that a service selects its pods by; none if it has no selector. -/
  selector : Client → (nspace service : String) → Except String (Option TextTable)
  /-- The pods that a query matches, in the order of the answer, by their names. -/
  pods : Client → (nspace query : String) → Except String (List (Option String))

/-- The document with the overrides of the settings. A document is an object, so there is
one. -/
def override (a : Access) (k : Kubeconfig) : Except Error Kubeconfig :=
  match patch? a (Schema.Recorded.toJson k) with
  | some doc =>
    match Kubeconfig.shape.readJson doc with
    | .ok v => .ok (Kubeconfig.ofVal v)
    | .error f => .error (.config s!"invalid cluster settings: {f.message []}")
  | none => .error (.config "invalid cluster settings: no document")

theorem override_engines (a : Access) (k : Kubeconfig) : Error.OnlyEngines (override a k) := by
  rw [override]
  split
  · split
    · exact .ok _
    · exact .error rfl
  · exact .error rfl

section

variable {Config Client : Type} (kit : Toolkit Config Client)

/-- With neither a document nor a host there is nothing to go by but the surroundings. -/
def configure (a : Access) : Except Error Config := do
  let loaded ← load kit.toLibrary a
  if loaded.isNone && a.host.isNone then
    kit.infer.mapError fun text => .config s!"cannot infer cluster configuration: {text}"
  else
    let k ← override a (loaded.getD {})
    (kit.configure k a.choice).mapError fun text => .config s!"invalid kubeconfig: {text}"

def connect (a : Access) : Except Error Client := do
  let config ← configure kit a
  (kit.create config).mapError fun text => .config s!"cannot create cluster client: {text}"

theorem configure_engines (a : Access) : Error.OnlyEngines (configure kit a) := by
  refine .bind (load_engines kit.toLibrary a) fun loaded => ?_
  split
  · cases kit.infer with
    | ok config => exact .ok config
    | error text => exact .error rfl
  · refine .bind (override_engines a _) fun k => ?_
    cases kit.configure k a.choice with
    | ok config => exact .ok config
    | error text => exact .error rfl

theorem connect_engines (a : Access) : Error.OnlyEngines (connect kit a) := by
  refine .bind (configure_engines kit a) fun config => ?_
  cases kit.create config with
  | ok client => exact .ok client
  | error text => exact .error rfl

/-! ## Questions -/

/-- The questions of a launch, put to a client. Pods without a name are left out. -/
def Toolkit.api (c : Client) : Api where
  selector nspace service :=
    match kit.selector c nspace service with
    | .ok labels => .ok (labels.getD .empty)
    | .error text => .error (.preflight s!"cannot get service {nspace}/{service}: {text}")
  pods nspace query :=
    match kit.pods c nspace query with
    | .ok names => .ok (names.filterMap id)
    | .error text => .error (.preflight s!"cannot list pods in {nspace}: {text}")

/-- The questions of a launch, for the settings of a tunnel. -/
def Toolkit.reach (a : Access) : Except Error Api := (connect kit a).map kit.api

end

end PortTunnel.Cluster
