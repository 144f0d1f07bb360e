import PortTunnel.Machine.Reply
import PortTunnel.Text.Table

/-!
# Answers of a cluster

What is read from the documents that a cluster sends. A document that contradicts its own
kind is no answer.

* `Answer.selector?`, `Answer.podNames?`, `Answer.pod?`: what a reply says about a service, a
  list of pods and a single pod.
-/

namespace PortTunnel.Cluster

open Machine (Reply)
open Text (TextTable)

/-- What is known of a pod. -/
structure Pod where
  name : Option String
  /-- Whether it is being deleted. -/
  terminating : Bool
  phase : Option String
  deriving DecidableEq, Repr

namespace Answer

/-- A member that may be missing or null. -/
def maybe? {α : Type} (read : Json → Option α) (name : String) (j : Json) : Option (Option α) :=
  match j.get? name with
  | none => some none
  | some .null => some none
  | some v => (read v).map some

/-- An object that is of a kind, as far as it says so itself. -/
def ofKind? (kind : String) (j : Json) : Option Json := do
  let _ ← j.members?
  let agrees (name value : String) : Bool := match j.get? name with
    | none => true
    | some (.string s) => s = value
    | some _ => false
  if agrees "apiVersion" "v1" && agrees "kind" kind then some j else none

def object? (j : Json) : Option Json := j.members?.map fun _ => j

/-- The member of a name, as an object; the empty one if it is missing or null. -/
def part? (name : String) (j : Json) : Option Json :=
  (maybe? object? name j).map fun part => part.getD (.object [])

def table? (j : Json) : Option TextTable := do
  let members ← j.members?
  let entries ← members.mapM fun m => m.2.text?.map (m.1, ·)
  some (TextTable.ofList entries)

/-- Whether a text has the form of a moment: date, time and zone. -/
def isMoment (s : String) : Bool :=
  match s.splitOn "T" with
  | [date, time] =>
    date.length = 10 && (date.splitOn "-").all (fun p => p.all Char.isDigit) &&
      8 < time.length && (time.toList.take 8).all fun c => c.isDigit || c = ':'
  | _ => false

def moment? (j : Json) : Option Unit := do
  let s ← j.text?
  if isMoment s then some () else none

def readPod? (j : Json) : Option Pod := do
  let j ← ofKind? "Pod" j
  let metadata ← part? "metadata" j
  let name ← maybe? Json.text? "name" metadata
  let deletion ← maybe? moment? "deletionTimestamp" metadata
  let _ ← part? "spec" j
  let status ← part? "status" j
  let phase ← maybe? Json.text? "phase" status
  some ⟨name, deletion.isSome, phase⟩

/-- The labels that a service selects by, if it has a selector. -/
def readSelector? (j : Json) : Option (Option TextTable) := do
  let j ← ofKind? "Service" j
  let metadata ← part? "metadata" j
  let _ ← maybe? Json.text? "name" metadata
  let spec ← part? "spec" j
  maybe? table? "selector" spec

/-- The pods of a list. There must be a list, which may be null. -/
def readPods? (j : Json) : Option (List Pod) := do
  let _ ← j.members?
  let _ ← match j.get? "metadata" with
    | none => some ()
    | some m => m.members?.map fun _ => ()
  match j.get? "items" with
  | none => none
  | some .null => some []
  | some items => do
    let items ← items.items?
    items.mapM readPod?

/-- Whether a document says that something was not found. -/
def saysNotFound (j : Json) : Bool :=
  (j.member "status").text?.isSome && (j.member "code").nat?.isSome &&
    (j.member "reason").text? = some "NotFound"

/-! ## Replies -/

def selector? (r : Reply) : Option (Option TextTable) := r.document?.bind readSelector?

def podNames? (r : Reply) : Option (List (Option String)) :=
  (r.document?.bind readPods?).map fun pods => pods.map (·.name)

/-- The pod; none within if there is no such pod. -/
def pod? (r : Reply) : Option (Option Pod) :=
  if r.isSuccess then (r.json?.bind readPod?).map some
  else match r.json? with
    | some j => if saysNotFound j then some none else none
    | none => none

end Answer

end PortTunnel.Cluster
