import PortTunnel.Cluster.Patch

/-!
# A patch in place

A patch changes a document where it stands, one part after another. Any value has a member to be
read, which is null if it is not there. A member to be written to is had of an object, and of null,
which becomes an object by it. Of anything else it is not to be had, and the patch ends with a
fault.

* `Editing`: changes of a document, with a record of all that was written to.
* `Place`: a part that can be written to.
* `namedEntry`: the body of the entry of a name, which is made if there is none.
* `patchInPlace`: a patch, change by change.
-/

namespace PortTunnel.Cluster

open Json (put find?)

/-! ## Changes on record -/

/-- What is written to. -/
inductive Touch where
  /-- The member of a value. -/
  | member (key : String) (value : Json)
  /-- The item at a position of a list. -/
  | item (index size : Nat)
  /-- The entry of a name in a list of the document, whose body is to be had or is not. -/
  | entry (list name : String) (opened : Bool)
  deriving Repr

/-- Changes, and what comes of them: nothing if one of them is a fault, which is the last one then. -/
structure Editing (α : Type) where
  touched : List Touch
  result : Option α

namespace Editing

instance : Monad Editing where
  pure a := ⟨[], some a⟩
  bind m f := match m.result with
    | some a => ⟨m.touched ++ (f a).touched, (f a).result⟩
    | none => ⟨m.touched, none⟩

def note (t : Touch) : Editing Unit := ⟨[t], some ()⟩

end Editing

/-! ## Places -/

/-- A part of a whole, and the whole with another part in its place. -/
structure Place (α β : Type) where
  part : α
  replace : α → β

/-- A member to be written to; one that is not there is null at first. -/
def slot? (key : String) : Json → Option (Place Json Json)
  | .null => some ⟨.null, fun value => .object [(key, value)]⟩
  | .object ms => some ⟨(find? key ms).getD .null, fun value => .object (put key value ms)⟩
  | _ => none

def slot (key : String) (j : Json) : Editing (Place Json Json) := ⟨[.member key j], slot? key j⟩

def write (key : String) (value j : Json) : Editing Json := do
  let place ← slot key j
  pure (place.replace value)

/-- An item to be written to. -/
def item (index : Nat) (xs : List Json) : Editing (Place Json (List Json)) :=
  ⟨[.item index xs.length], xs[index]?.map fun x => ⟨x, xs.set index⟩⟩

/-- Writes a fresh member over one that is not of the kind that is looked for. -/
def ensure {α : Type} (kind? : Json → Option α) (fresh : Json) (key : String) (j : Json) :
    Editing Json :=
  if (kind? (j.member key)).isSome then pure j else write key fresh j

/-! ## Named entries -/

/-- Entries with one of a name, which is added at the end if there was none, and its position. -/
def position (name body : String) (es : List Json) : List Json × Nat :=
  match es.findIdx? (isNamed name) with
  | some index => (es, index)
  | none => (es ++ [.object [("name", .string name), (body, .object [])]], es.length)

/-- A document in which an entry was looked for, and the body of that entry, if it is to be had. -/
structure Opened where
  doc : Json
  body : Option (Place Members Json)

/-- Opens an entry of a list. -/
def openBody (name body : String) (entries : Place (List Json) Json) : Editing Opened := do
  let (es, index) := position name body entries.part
  let entry ← item index es
  let changed ← ensure Json.members? (.object []) body entry.part
  let content ← slot body changed
  let whole := fun j => entries.replace (entry.replace (content.replace j))
  pure ⟨whole content.part, content.part.members?.map fun ms => ⟨ms, fun ms => whole (.object ms)⟩⟩

/-- Opens an entry of a list of the document. -/
def openEntry (list name body : String) (doc : Json) : Editing Opened := do
  let doc ← ensure Json.items? (.array []) list doc
  let entries ← slot list doc
  match entries.part.items? with
  | some es => openBody name body ⟨es, fun es => entries.replace (.array es)⟩
  | none => pure ⟨entries.replace entries.part, none⟩

def namedEntry (list name body : String) (doc : Json) : Editing Opened := do
  let opened ← openEntry list name body doc
  Editing.note (.entry list name opened.body.isSome)
  pure opened

/-- Lays members over the body; if there is none, the members are not even made. -/
def Opened.lay (o : Opened) (new : Editing Members) : Editing Json :=
  match o.body with
  | some place => do
    let new ← new
    pure (place.replace (putAll new place.part))
  | none => pure o.doc

/-! ## The patch -/

/-- A login program as the configuration spells it; what the settings leave out is not written. -/
def ExecLogin.spell (e : ExecLogin) : Editing Json := do
  let login := Json.object [("apiVersion", .string e.apiVersion), ("command", .string e.command),
    ("interactiveMode", .string "IfAvailable")]
  let login ← match e.args with
    | some args => write "args" (Json.ofTexts args) login
    | none => pure login
  match e.env with
  | some env =>
    write "env" (.array (env.entries.map fun v =>
      .object [("name", .string v.1), ("value", .string v.2)])) login
  | none => pure login

/-- The members of a user; the login program is the last of them. -/
def Access.spellUser (a : Access) : Editing Members :=
  match a.exec with
  | some e => do
    let login ← e.spell
    pure (Access.userOverrides { a with exec := none } ++ [("exec", login)])
  | none => pure a.userOverrides

/-- The body of the context that a client would select. -/
def contextIn? (name : Option String) (doc : Json) : Option Json := do
  let name ← name
  let contexts ← (doc.member "contexts").items?
  let entry ← contexts.find? (isNamed name)
  some (entry.member "context")

/-- Makes a context the current one, unless another is. -/
def makeCurrent (name : String) (doc : Json) : Editing Json :=
  if (doc.member "current-context").text?.all String.isEmpty then
    write "current-context" (.string name) doc
  else pure doc

/-- Makes up a context where none is selected, and tells the names of cluster and user. -/
def settleInPlace (a : Access) (doc : Json) : Editing (Json × Option String × Option String) :=
  let name := a.context <|> (doc.member "current-context").text?
  match contextIn? name doc with
  | some ctx =>
    pure (doc, a.contextCluster <|> (ctx.member "cluster").text?,
      a.contextUser <|> (ctx.member "user").text?)
  | none => do
    let cluster := a.contextCluster.getD syntheticName
    let user := a.contextUser.getD syntheticName
    let name := name.getD syntheticName
    let opened ← namedEntry "contexts" name "context" doc
    let doc ← opened.lay (pure [("cluster", .string cluster), ("user", .string user)])
    let doc ← makeCurrent name doc
    pure (doc, some cluster, some user)

/-- Lays members over the named entry, if there is a name and any of them is set. -/
def overrideInPlace (list body : String) (name : Option String) (isSet : Bool)
    (new : Editing Members) (doc : Json) : Editing Json :=
  match name, isSet with
  | some name, true => do
    let opened ← namedEntry list name body doc
    opened.lay new
  | _, _ => pure doc

def patchInPlace (a : Access) (doc : Json) : Editing Json :=
  let setsCluster := !a.clusterOverrides.isEmpty
  let setsUser := !a.userOverrides.isEmpty
  if !setsCluster && !setsUser then pure doc
  else do
    let (doc, cluster, user) ← settleInPlace a doc
    let doc ← overrideInPlace "clusters" "cluster" cluster setsCluster (pure a.clusterOverrides) doc
    overrideInPlace "users" "user" user setsUser a.spellUser doc

end PortTunnel.Cluster
