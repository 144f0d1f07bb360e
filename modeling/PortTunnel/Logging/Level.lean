/-!
# Levels of the log

* `Level`: how much is logged, from nothing to everything.
* `Level.ofText?`: the level of a name in any case, or of a number.
-/

namespace PortTunnel.Logging

inductive Level where
  | off
  | error
  | warn
  | info
  | debug
  | trace
  deriving DecidableEq, Repr

namespace Level

/-- All levels, each at the place that its number says. -/
def all : List Level := [.off, .error, .warn, .info, .debug, .trace]

def name : Level → String
  | .off => "off"
  | .error => "error"
  | .warn => "warn"
  | .info => "info"
  | .debug => "debug"
  | .trace => "trace"

/-- A number behind an optional plus sign; it may have leading zeros. -/
def number? (cs : List Char) : Option Nat :=
  let digits := match cs with
    | '+' :: rest => rest
    | _ => cs
  if digits.isEmpty || !digits.all Char.isDigit then none
  else some (digits.foldl (fun n c => n * 10 + (c.toNat - 48)) 0)

def ofText? (s : String) : Option Level :=
  match (number? s.toList).bind (all[·]?) with
  | some level => some level
  | none => all.find? fun level => level.name = s.toLower

end Level

end PortTunnel.Logging
