import PortTunnel.Assignment
import PortTunnel.Decimal.Word
import PortTunnel.Inspect
import PortTunnel.Machine.Environment
import PortTunnel.Payload

/-!
# The handoff to a worker

A worker is the same program, started with its role and its assignment in the environment
and the process that it belongs to as its only argument.

* `Launch.parse`: what a worker was started for; the first check that fails is reported.
* `Launch.environment`, `Launch.arguments`: what a worker is started with.
* `Launch.ofEnvironment`: reads the handoff and takes it out of the environment.
-/

namespace PortTunnel

open Machine (Environment)
open Text.Utf8 (bytes decodeLossy)

/-- What a worker was started for. -/
structure Launch where
  kind : Kind
  assignment : Assignment
  parentPid : UInt32
  deriving DecidableEq, Repr

instance : Inspect Launch where
  shown l := Inspect.record "WorkerLaunch" [
    ("kind", l.kind.shown), ("payload", Inspect.shown l.assignment),
    ("parent_pid", toString l.parentPid.toNat)]

namespace Launch

/-- The variable that makes a process a worker: the marker of its kind. -/
def roleVariable : String := "TUNNELWARD_TUNNEL_TYPE"

/-- The variable that holds the assignment. -/
def payloadVariable : String := "TUNNELWARD_TUNNEL_CONF"

def parseRole (role : String) : Except Error Kind :=
  match Kind.ofMarker? role with
  | some kind => .ok kind
  | none => .error (.config s!"unknown tunnel type: {role}")

def parsePayload (kind : Kind) : Option String → Except Error Assignment
  | none => .error (.decode s!"{payloadVariable} is not set")
  | some encoded => do
    let assignment : Assignment ← Payload.decode encoded
    if assignment.kind = kind then .ok assignment
    else .error (.decode s!"payload is for {assignment.kind.marker} but role is {kind.marker}")

def parseParent : Option String → Except Error UInt32
  | none => .error (.config "missing parent pid argument")
  | some text =>
    match Decimal.Word.parse UInt32.size text with
    | .ok n => .ok (UInt32.ofNat n)
    | .error f => .error (.config s!"invalid parent pid: {f.message}")

/-- Role, assignment and parent are looked at in this order. -/
def parse (role : String) (payload parent : Option String) : Except Error Launch := do
  let kind ← parseRole role
  let assignment ← parsePayload kind payload
  let parentPid ← parseParent parent
  .ok ⟨kind, assignment, parentPid⟩

/-! ## The environment of a worker -/

/-- The environment in which a worker is started by a process with the given one. -/
def environment (a : Assignment) (env : Environment) : Environment :=
  (env.set (bytes roleVariable) (bytes a.kind.marker)).set
    (bytes payloadVariable) (bytes (Payload.encode a))

def arguments (parentPid : UInt32) : List String := [toString parentPid.toNat]

/-- The launch that a process was started for, if it is a worker, and what is left of its
environment. A payload that is no text counts as missing. -/
def ofEnvironment (env : Environment) (args : List String) :
    Environment × Except Error (Option Launch) :=
  match env.get? (bytes roleVariable) with
  | none => (env, .ok none)
  | some role =>
    ((env.remove (bytes roleVariable)).remove (bytes payloadVariable),
      (parse (.ofList (decodeLossy role)) (env.text? payloadVariable) args.head?).map some)

end Launch

end PortTunnel
