/-!
# Kinds of tunnel

The three ways to reach a target: through an SSH bastion, through a managed remote
session, through a port-forward of a cluster.

* `Kind.marker`: the word that names a kind across the process boundary.
* `Kind.ofMarker?`: the kind of a word; `ofMarker?_eq_some_iff` says that the two agree.
-/

namespace PortTunnel

inductive Kind where
  | ssh
  | session
  | cluster
  deriving DecidableEq, Repr, Inhabited

namespace Kind

/-- All kinds, in the order in which they are listed. -/
def all : List Kind := [.ssh, .session, .cluster]

def marker : Kind → String
  | .ssh => "ssh"
  | .session => "ssm"
  | .cluster => "kubernetes"

def ofMarker? (s : String) : Option Kind := all.find? fun k => k.marker = s

/-- The name under which a kind is shown to a person. -/
def shown : Kind → String
  | .ssh => "Ssh"
  | .session => "Session"
  | .cluster => "Cluster"

theorem ofMarker?_marker (k : Kind) : ofMarker? k.marker = some k := by
  cases k <;> decide

theorem ofMarker?_eq_some_iff {s : String} {k : Kind} : ofMarker? s = some k ↔ s = k.marker := by
  constructor
  · intro h
    have := List.find?_some h
    simpa [eq_comm] using this
  · rintro rfl
    exact ofMarker?_marker k

end Kind

end PortTunnel
