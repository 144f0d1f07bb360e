import PortTunnel.Cluster.Settings
import PortTunnel.Error

/-!
# From a service to a pod

* `Cluster.selectorText`: the labels of a selector as a query.
* `Cluster.Api`: the questions that are put to a cluster.
* `Cluster.preflight`: chooses the first pod behind a service, along with the questions
  that were asked.
-/

namespace PortTunnel.Cluster

open Text (TextTable)

/-- `key=value` for each label, by ascending key, between commas. -/
def selectorText (labels : TextTable) : String :=
  ",".intercalate (labels.entries.map fun e => e.1 ++ "=" ++ e.2)

structure Api where
  /-- The labels that a service selects its pods by. -/
  selector : (nspace service : String) → Except Error TextTable
  /-- The names of the pods that a query matches, in the order of the answer. -/
  pods : (nspace query : String) → Except Error (List String)

/-- A question that an API was asked. -/
inductive Call where
  | selector (nspace service : String)
  | pods (nspace query : String)
  deriving DecidableEq, Repr

def preflight (api : Api) (s : Settings) : List Call × Except Error Assignment :=
  let asked := [Call.selector s.nspace s.service]
  match api.selector s.nspace s.service with
  | .error e => (asked, .error e)
  | .ok labels =>
    if labels.isEmpty then
      (asked, .error (.preflight s!"service {s.nspace}/{s.service} has no selector"))
    else
      let query := selectorText labels
      let asked := asked ++ [.pods s.nspace query]
      match api.pods s.nspace query with
      | .error e => (asked, .error e)
      | .ok [] => (asked, .error (.noPods s.nspace s.service))
      | .ok (pod :: _) => (asked, .ok ⟨s, pod⟩)

end PortTunnel.Cluster
