import PortTunnel.Json.Printer
import PortTunnel.Session.Settings

/-!
# Handles

* `Handle`: what is kept of an open tunnel so that it can be closed later.
* `Handle.text`: the laid-out text that is printed for the caller.
-/

namespace PortTunnel

open Schema

structure Handle where
  localHost : String
  localPort : UInt16
  pid : UInt32
  logPath : String
  /-- The remote session behind the tunnel, if its kind has one. -/
  session : Option Session.Receipt
  deriving DecidableEq, Repr

namespace Handle

abbrev shape : Shape :=
  .record "struct TunnelHandle" <|
    .text "local_host" <| .required "local_port" .word16 <| .required "pid" .word32 <|
    .required "log_path" (.text "path string") <|
    .optional "session" (.nullable Session.Receipt.shape) .nil

def toVal (h : Handle) : shape.Val :=
  (h.localHost, h.localPort, h.pid, h.logPath, h.session.map fun r => some r.toVal, ())

def ofVal : shape.Val → Handle
  | (lh, lp, p, l, s, ()) => ⟨lh, lp, p, l, (Option.join s).map Session.Receipt.ofVal⟩

theorem ofVal_toVal (h : Handle) : ofVal h.toVal = h := by
  cases h with
  | mk lh lp p l s =>
    cases s with
    | none => rfl
    | some r => exact congrArg (fun r => Handle.mk lh lp p l (some r)) (Session.Receipt.ofVal_toVal r)

instance : Recorded Handle where
  shape := shape
  toVal := toVal
  ofVal := ofVal
  ofVal_toVal := ofVal_toVal

def text (h : Handle) : String := Json.pretty (Recorded.toJson h) ++ "\n"

end Handle

end PortTunnel
