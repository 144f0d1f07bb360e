/-!
# Refusals of the system

Why the operating system turns a request down, with the words in which it says so.

* `Fault`: the reasons.
* `Fault.message`: the words.
-/

namespace PortTunnel.Machine

inductive Fault where
  | notPermitted
  | notFound
  | denied
  | exists
  | notDirectory
  | isDirectory
  | tooManyOpen
  | nameTooLong
  | execFormat
  | addressInUse
  | addressUnavailable
  | unreachable
  | refused
  /-- A path holds a character that ends texts of the system. -/
  | nulInPath
  /-- An argument or a variable holds such a character. -/
  | nulInArgument
  | unknownHost
  deriving DecidableEq, Repr, Inhabited

namespace Fault

def message : Fault → String
  | .notPermitted => "Operation not permitted (os error 1)"
  | .notFound => "No such file or directory (os error 2)"
  | .execFormat => "Exec format error (os error 8)"
  | .denied => "Permission denied (os error 13)"
  | .exists => "File exists (os error 17)"
  | .notDirectory => "Not a directory (os error 20)"
  | .isDirectory => "Is a directory (os error 21)"
  | .tooManyOpen => "Too many open files (os error 24)"
  | .nameTooLong => "File name too long (os error 36)"
  | .addressInUse => "Address already in use (os error 98)"
  | .addressUnavailable => "Cannot assign requested address (os error 99)"
  | .unreachable => "Network is unreachable (os error 101)"
  | .refused => "Connection refused (os error 111)"
  | .nulInPath => "file name contained an unexpected NUL byte"
  | .nulInArgument => "nul byte found in provided data"
  | .unknownHost => "failed to lookup address information: Name or service not known"

end Fault

end PortTunnel.Machine
