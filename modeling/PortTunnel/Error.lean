/-!
# Errors

What can go wrong with a tunnel, by the stage at which it is noticed. What a peer reports
in its own words is kept as text.

* `Error`: the causes.
* `Error.message`: how each is worded.
* `Error.isEngines`, `Error.OnlyEngines`: the errors that the engine of a tunnel meets with.
-/

namespace PortTunnel

inductive Error where
  /-- The operating system refused something. -/
  | io (text : String)
  /-- Settings that are malformed or contradict each other. -/
  | config (text : String)
  /-- A check before any worker was started failed. -/
  | preflight (text : String)
  | noPods (nspace service : String)
  /-- The worker could not be started, or ended within its grace time. -/
  | start (reason logPath : String)
  | watchdog (text : String)
  | decode (text : String)
  /-- Forwarding failed after it had begun. -/
  | engine (text : String)
  | invalidState (text : String)
  | noProcess (pid : Nat)
  /-- Steps of a teardown that failed, in order. -/
  | teardown (failures : List String)
  deriving DecidableEq, Repr, Inhabited

namespace Error

def message : Error → String
  | .io text => s!"IO error: {text}"
  | .config text => s!"Configuration error: {text}"
  | .preflight text => s!"Pre-flight failed: {text}"
  | .noPods nspace service => s!"no pods found for service {nspace}/{service}"
  | .start reason logPath =>
    s!"tunnel process failed to start ({reason}). check {logPath} for more information"
  | .watchdog text => s!"Watchdog failure: {text}"
  | .decode text => s!"Decode error: {text}"
  | .engine text => s!"Forwarding engine error: {text}"
  | .invalidState text => s!"Invalid state: {text}"
  | .noProcess pid => s!"Process {pid} not found"
  | .teardown failures => "Teardown incomplete: " ++ "; ".intercalate failures

/-- The errors that an engine meets with: refusals of the system, unfit settings, and what goes
wrong with forwarding. -/
def isEngines : Error → Bool
  | .io _ | .config _ | .engine _ => true
  | _ => false

/-- An attempt that fails as an engine does, if it fails. -/
def OnlyEngines {α : Type} (attempt : Except Error α) : Prop :=
  ∀ e, attempt = .error e → e.isEngines

namespace OnlyEngines

variable {α β : Type}

theorem ok (a : α) : OnlyEngines (.ok a) := nofun

theorem error {e : Error} (h : e.isEngines) : OnlyEngines (.error e : Except Error α) := by
  rintro _ ⟨⟩
  exact h

theorem bind {attempt : Except Error α} {next : α → Except Error β} (h : OnlyEngines attempt)
    (hnext : ∀ a, OnlyEngines (next a)) : OnlyEngines (attempt >>= next) := by
  cases attempt with
  | ok a => exact hnext a
  | error e => exact error (h e rfl)

theorem map {attempt : Except Error α} (f : α → β) (h : OnlyEngines attempt) :
    OnlyEngines (attempt.map f) := by
  cases attempt with
  | ok a => exact ok (f a)
  | error e => exact error (h e rfl)

end OnlyEngines

end Error

end PortTunnel
