import PortTunnel.Logging.Filter
import PortTunnel.Text.Table

/-!
# Settings of the log

* `Logging.Settings.frontEnd`, `Logging.Settings.worker`: how the program logs for a person,
  and how a worker logs into its file.
* `Logging.Settings.filter`: the filter that is used; the environment may name one.
-/

namespace PortTunnel.Logging

open Text (TextTable)

structure Settings where
  /-- The filter that is used unless the environment names one. -/
  defaultFilter : String := "info"
  coloured : Bool
  /-- Whether the part of the program that logs something is named. -/
  showsTarget : Bool
  deriving DecidableEq, Repr

namespace Settings

def frontEnd : Settings := { coloured := true, showsTarget := false }

def worker : Settings := { coloured := false, showsTarget := true }

/-- The variable that may hold a filter. -/
def filterVariable : String := "RUST_LOG"

/-- A filter in the environment counts only if all of it can be read. -/
def filter (s : Settings) (env : TextTable) : Filter :=
  match (env.get? filterVariable).bind Filter.strict? with
  | some filter => filter
  | none => Filter.lenient s.defaultFilter

end Settings

end PortTunnel.Logging
