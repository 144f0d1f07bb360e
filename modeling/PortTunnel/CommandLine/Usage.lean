/-!
# Command lines that are not carried out

* `Usage`: why a command line leads to nothing but a text for the person who wrote it.
* `Usage.exitCode`: whether that is a success, because the text was asked for.
-/

namespace PortTunnel.CommandLine

inductive Usage where
  /-- Help was asked for. -/
  | help
  /-- The version was asked for; of a command, if there is one. -/
  | version (command : Option String)
  /-- There is no command. -/
  | incomplete
  | unknownCommand
  | unknownArgument
  /-- A flag has a value. -/
  | surplusValue
  /-- A value is left out, or empty where it must not be. -/
  | emptyValue
  /-- A value is none of those that are possible. -/
  | unlistedValue
  /-- A value is not a number, or too large. -/
  | unreadableValue
  /-- What may be given once is given again. -/
  | repeated
  /-- Something required is left out. -/
  | missing
  deriving DecidableEq, Repr

def Usage.exitCode : Usage → Nat
  | .help => 0
  | .version _ => 0
  | _ => 2

end PortTunnel.CommandLine
