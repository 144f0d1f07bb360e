import PortTunnel.Cluster.InPlace
import PortTunnel.Proofs.Cluster.Layer

/-!
# Faults of a patch

A patch in place ends with a fault where it writes to a member of something that has none. The
document is the only thing for which this can happen: whatever is found inside it is replaced
before it is written to, unless it is of the right kind.

* `Editing.Comes`: changes that come to a value, none of them a fault.
* `Located`: the body of the entry of a name, found or made; `namedEntry_comes`: it is always had.
* `patchInPlace_comes`: in an object or null, a patch in place comes to the document of the patch.
* `patchInPlace_faults_iff`: a patch faults exactly if there is something to override in any other
  value.
-/

namespace PortTunnel.Cluster

open Json (put find? find?_put_self)

/-! ## Changes without a fault -/

/-- A touch that is no fault. -/
def Touch.Sound : Touch → Prop
  | .member _ value => Patchable value
  | .item index size => index < size
  | .entry _ _ opened => opened

/-- Changes come to a value, and none of them is a fault. -/
structure Editing.Comes {α : Type} (m : Editing α) (a : α) : Prop where
  result : m.result = some a
  sound : ∀ t ∈ m.touched, t.Sound

namespace Editing

variable {α β : Type} {m : Editing α} {a : α}

theorem bind_of_some (h : m.result = some a) (f : α → Editing β) :
    m >>= f = ⟨m.touched ++ (f a).touched, (f a).result⟩ := by
  simp only [bind, h]

/-- After a fault nothing happens any more. -/
theorem bind_of_none (h : m.result = none) (f : α → Editing β) : m >>= f = ⟨m.touched, none⟩ := by
  simp only [bind, h]

namespace Comes

theorem pure (a : α) : (Pure.pure a : Editing α).Comes a := ⟨rfl, nofun⟩

theorem bind {f : α → Editing β} {b : β} (h : m.Comes a) (hf : (f a).Comes b) :
    (m >>= f).Comes b := by
  rw [bind_of_some h.result]
  refine ⟨hf.result, fun t ht => ?_⟩
  rcases List.mem_append.mp ht with hm | hft
  · exact h.sound t hm
  · exact hf.sound t hft

theorem note {t : Touch} (h : t.Sound) : (Editing.note t).Comes () := by
  refine ⟨rfl, fun u hu => ?_⟩
  rw [List.mem_singleton.mp hu]
  exact h

end Comes

end Editing

open Editing (Comes)

/-! ## Members -/

variable {doc : Json} {ms : Members}

theorem patchable_object (ms : Members) : Patchable (.object ms) := .inr ⟨ms, rfl⟩

theorem membersOf_object (ms : Members) : membersOf (.object ms) = ms := rfl

theorem slot_comes (h : Patchable doc) (key : String) :
    (slot key doc).Comes ⟨doc.member key, fun value => .object (put key value (membersOf doc))⟩ := by
  refine ⟨?_, fun t ht => ?_⟩
  · rcases h with rfl | ⟨ms, rfl⟩ <;> rfl
  · rw [List.mem_singleton.mp ht]
    exact h

theorem write_comes (h : Patchable doc) (key : String) (value : Json) :
    (write key value doc).Comes (.object (put key value (membersOf doc))) :=
  (slot_comes h key).bind (.pure _)

theorem slot_of_not_patchable (h : ¬ Patchable doc) (key : String) :
    slot key doc = ⟨[.member key doc], none⟩ := by
  cases doc with
  | null => exact absurd (.inl rfl) h
  | object ms => exact absurd (patchable_object ms) h
  | _ => rfl

/-- The member that was looked for, or the fresh one, is to be written to afterwards; what is
written there is written to the value that was there before. -/
theorem ensure_comes {α : Type} {kind? : Json → Option α} {fresh part : Json} {key : String}
    (h : Patchable doc)
    (hpart : (if (kind? (doc.member key)).isSome then doc.member key else fresh) = part) :
    ∃ changed, (ensure kind? fresh key doc).Comes changed ∧
      (slot key changed).Comes ⟨part, fun value => .object (put key value (membersOf doc))⟩ := by
  rw [ensure]
  split at hpart
  · rename_i hkind
    rw [if_pos hkind, ← hpart]
    exact ⟨doc, .pure doc, slot_comes h key⟩
  · rename_i hkind
    rw [if_neg hkind, ← hpart]
    refine ⟨_, write_comes h key fresh, ?_⟩
    have hslot := slot_comes (patchable_object (put key fresh (membersOf doc))) key
    simpa [Json.member_object, membersOf_object, Json.put_put] using hslot

theorem get?_membersOf (doc : Json) (key : String) : doc.get? key = find? key (membersOf doc) := by
  cases doc <;> rfl

/-- A list that is none is replaced by an empty one, as which it counts anyway. -/
theorem ensured_items (doc : Json) (list : String) :
    (if (doc.member list).items?.isSome then doc.member list else .array []) =
      .array (listMember list (membersOf doc)) := by
  rw [listMember, Json.member, get?_membersOf]
  cases find? list (membersOf doc) with
  | none => rfl
  | some value => cases value <;> rfl

/-- What is written over a body. -/
def contentOf (body : String) (entry : Json) : Members := ((entry.get? body).bind Json.members?).getD []

theorem ensured_members (entry : Json) (body : String) :
    (if (entry.member body).members?.isSome then entry.member body else .object []) =
      .object (contentOf body entry) := by
  rw [contentOf, Json.member]
  cases entry.get? body with
  | none => rfl
  | some value => cases value <;> rfl

/-! ## Entries -/

/-- The body of the entry of a name, to be written to: of the first entry of that name, or of one
that is added at the end where there is none. -/
inductive Located (list name body : String) (doc : Json) : Place Members Json → Prop where
  | found {before after : List Json} {entry : Json}
      (hlist : listMember list (membersOf doc) = before ++ entry :: after)
      (hname : isNamed name entry) (hfirst : ∀ e ∈ before, ¬ isNamed name e) :
      Located list name body doc ⟨contentOf body entry, fun content =>
        .object (put list (.array (before ++ Json.set body (.object content) entry :: after))
          (membersOf doc))⟩
  | made (hfresh : ∀ e ∈ listMember list (membersOf doc), ¬ isNamed name e) :
      Located list name body doc ⟨[], fun content =>
        .object (put list (.array (listMember list (membersOf doc) ++
          [.object [("name", .string name), (body, .object content)]])) (membersOf doc))⟩

variable {list name body : String}

theorem position_found {before after : List Json} {entry : Json} (hname : isNamed name entry)
    (hfirst : ∀ e ∈ before, ¬ isNamed name e) :
    position name body (before ++ entry :: after) = (before ++ entry :: after, before.length) := by
  have hindex : (before ++ entry :: after).findIdx? (isNamed name) = some before.length := by
    have hnone : before.findIdx? (isNamed name) = none :=
      List.findIdx?_eq_none_iff.mpr (by simpa using hfirst)
    rw [List.findIdx?_append, hnone, List.findIdx?_cons, if_pos hname]
    simp
  rw [position, hindex]

theorem position_made {es : List Json} (hfresh : ∀ e ∈ es, ¬ isNamed name e) :
    position name body es =
      (es ++ [.object [("name", .string name), (body, .object [])]], es.length) := by
  have hindex : es.findIdx? (isNamed name) = none :=
    List.findIdx?_eq_none_iff.mpr (by simpa using hfresh)
  rw [position, hindex]

theorem item_comes (before after : List Json) (entry : Json) :
    (item before.length (before ++ entry :: after)).Comes
      ⟨entry, fun e => before ++ e :: after⟩ := by
  have hset : (before ++ entry :: after).set before.length = fun e => before ++ e :: after := by
    funext e
    simp
  refine ⟨?_, fun t ht => ?_⟩
  · simp [item, hset]
  · rw [List.mem_singleton.mp ht]
    simp [Touch.Sound]

/-- An entry that is an object is opened, whatever its body was before. -/
theorem openBody_comes {entries : Place (List Json) Json} {before after : List Json} {entry : Json}
    (hposition : position name body entries.part = (before ++ entry :: after, before.length))
    (hentry : Patchable entry) {place : Place Members Json}
    (hplace : place = ⟨contentOf body entry, fun content => entries.replace
      (before ++ .object (put body (.object content) (membersOf entry)) :: after)⟩) :
    (openBody name body entries).Comes ⟨place.replace place.part, some place⟩ := by
  obtain ⟨changed, hchanged, hslot⟩ := ensure_comes hentry (ensured_members entry body)
  rw [openBody, hposition, hplace]
  exact (item_comes before after entry).bind (hchanged.bind (hslot.bind (.pure _)))

theorem openEntry_comes (hdoc : Patchable doc) (hbody : body ≠ "name") (list name : String) :
    ∃ place, Located list name body doc place ∧
      (openEntry list name body doc).Comes ⟨place.replace place.part, some place⟩ := by
  obtain ⟨changed, hchanged, hslot⟩ := ensure_comes hdoc (ensured_items doc list)
  rcases exists_first name (listMember list (membersOf doc)) with
    hfresh | ⟨before, entry, after, hlist, hname, hfirst⟩
  · refine ⟨_, .made hfresh, hchanged.bind (hslot.bind ?_)⟩
    have hne : "name" ≠ body := hbody.symm
    refine openBody_comes (position_made hfresh) (patchable_object _) ?_
    simp [contentOf, Json.get?, find?, put, hne, Json.members?, membersOf_object]
  · refine ⟨_, .found hlist hname hfirst, hchanged.bind (hslot.bind ?_)⟩
    obtain ⟨ms, rfl⟩ := isNamed_object hname
    refine openBody_comes ?_ (patchable_object ms) rfl
    rw [hlist]
    exact position_found hname hfirst

/-- The entry of a name is always had, in a document that is an object or null. -/
theorem namedEntry_comes (hdoc : Patchable doc) (hbody : body ≠ "name") (list name : String) :
    ∃ place, Located list name body doc place ∧
      (namedEntry list name body doc).Comes ⟨place.replace place.part, some place⟩ := by
  obtain ⟨place, hplace, hopened⟩ := openEntry_comes hdoc hbody list name
  have hsound : (Touch.entry list name true).Sound := rfl
  exact ⟨place, hplace, hopened.bind ((Comes.note hsound).bind (.pure _))⟩

theorem namedEntry_of_not_patchable (hdoc : ¬ Patchable doc) (list name body : String) :
    namedEntry list name body doc = ⟨[.member list doc], none⟩ := by
  have hmember : doc.member list = .null := by
    cases doc with
    | object ms => exact absurd (patchable_object ms) hdoc
    | _ => rfl
  have hslot : (slot list doc).result = none := by rw [slot_of_not_patchable hdoc]
  have hensure : ensure Json.items? (.array []) list doc = ⟨[.member list doc], none⟩ := by
    rw [ensure, hmember]
    exact Editing.bind_of_none hslot _
  have hopen : openEntry list name body doc = ⟨[.member list doc], none⟩ := by
    rw [openEntry, hensure]
    rfl
  rw [namedEntry, hopen]
  rfl

/-- Members that are laid over the body are those that the patch puts there. -/
theorem Located.replace_putAll {place : Place Members Json} (h : Located list name body doc place)
    (new : Members) :
    place.replace (putAll new place.part) =
      .object (changeEntry list name body new (membersOf doc)) := by
  cases h with
  | found hlist hname hfirst => rw [changeEntry, hlist, changeNamed_found hname hfirst]; rfl
  | made hfresh => rw [changeEntry, changeNamed_made hfresh]

/-! ## Overrides -/

theorem spell_comes (e : ExecLogin) : e.spell.Comes e.toConfig := by
  obtain ⟨version, command, env, args⟩ := e
  have hlogin := patchable_object [("apiVersion", .string version), ("command", .string command),
    ("interactiveMode", .string "IfAvailable")]
  cases args with
  | none =>
    cases env with
    | none => exact (Comes.pure _).bind (.pure _)
    | some env => exact (Comes.pure _).bind (write_comes hlogin _ _)
  | some args =>
    have hargs := write_comes hlogin "args" (Json.ofTexts args)
    cases env with
    | none => exact hargs.bind (.pure _)
    | some env => exact hargs.bind (write_comes (patchable_object _) _ _)

theorem spellUser_comes (a : Access) : a.spellUser.Comes a.userOverrides := by
  cases hexec : a.exec with
  | none =>
    rw [Access.spellUser, hexec]
    exact .pure _
  | some e =>
    have hlast : a.userOverrides =
        Access.userOverrides { a with exec := none } ++ [("exec", e.toConfig)] := by
      simp [Access.userOverrides, hexec]
    rw [Access.spellUser, hexec, hlast]
    exact (spell_comes e).bind (.pure _)

theorem Located.lay_comes {place : Place Members Json} (h : Located list name body doc place)
    {new : Editing Members} {members : Members} (hnew : new.Comes members) :
    (Opened.lay ⟨place.replace place.part, some place⟩ new).Comes
      (.object (changeEntry list name body members (membersOf doc))) := by
  rw [← h.replace_putAll]
  exact hnew.bind (.pure _)

theorem override_comes (hbody : body ≠ "name") (list : String) (name : Option String)
    {new : Editing Members} {members : Members} (hnew : new.Comes members) (ms : Members) :
    (overrideInPlace list body name (!members.isEmpty) new (.object ms)).Comes
      (.object (overrideEntry list body name members ms)) := by
  cases name with
  | none => exact .pure _
  | some name =>
    cases members with
    | nil => exact .pure _
    | cons m members =>
      obtain ⟨place, hplace, hentry⟩ := namedEntry_comes (patchable_object ms) hbody list name
      exact hentry.bind (hplace.lay_comes hnew)

/-! ## The context -/

theorem text?_member (doc : Json) (key : String) :
    (doc.member key).text? = (find? key (membersOf doc)).bind Json.text? := by
  rw [Json.member, get?_membersOf]
  cases find? key (membersOf doc) <;> rfl

theorem contextName?_eq (a : Access) (doc : Json) :
    (a.context <|> (doc.member "current-context").text?) = contextName? a (membersOf doc) := by
  rw [contextName?, text?_member]

theorem contextIn?_eq (a : Access) (doc : Json) :
    contextIn? (contextName? a (membersOf doc)) doc = selectedContext? a (membersOf doc) := by
  have hitems : (doc.member "contexts").items? =
      (find? "contexts" (membersOf doc)).bind Json.items? := by
    rw [Json.member, get?_membersOf]
    cases find? "contexts" (membersOf doc) <;> rfl
  rw [contextIn?, hitems, selectedContext?, listMember]
  cases (find? "contexts" (membersOf doc)).bind Json.items? with
  | none => rfl
  | some es => rfl

theorem selectedContext?_nil (a : Access) : selectedContext? a [] = none := by
  rw [selectedContext?]
  cases contextName? a [] <;> rfl

/-- Only an object has a context. -/
theorem eq_object_of_selected {a : Access} {ctx : Json}
    (h : selectedContext? a (membersOf doc) = some ctx) : doc = .object (membersOf doc) := by
  cases doc with
  | object ms => rfl
  | _ =>
    rw [show membersOf _ = [] from rfl, selectedContext?_nil] at h
    cases h

theorem makeCurrent_comes (name cluster user : String) (ms : Members) :
    (makeCurrent name (.object (changeEntry "contexts" name "context"
      [("cluster", .string cluster), ("user", .string user)] ms))).Comes
        (.object (addContext name cluster user ms)) := by
  rw [makeCurrent, text?_member, membersOf_object, addContext]
  generalize changeEntry "contexts" name "context" _ ms = doc
  have hwrite := write_comes (patchable_object doc) "current-context" (.string name)
  cases (find? "current-context" doc).bind Json.text? with
  | none => exact hwrite
  | some current =>
    cases hempty : current.isEmpty with
    | true => simpa [hempty, membersOf_object] using hwrite
    | false => simpa [hempty] using Comes.pure _

theorem settle_comes (a : Access) (hdoc : Patchable doc) :
    (settleInPlace a doc).Comes
      (.object (settle a (membersOf doc)).1, (settle a (membersOf doc)).2) := by
  rw [settleInPlace, settle, contextName?_eq, contextIn?_eq]
  cases hcontext : selectedContext? a (membersOf doc) with
  | some ctx =>
    rw [← eq_object_of_selected hcontext]
    exact .pure _
  | none =>
    obtain ⟨place, hplace, hentry⟩ := namedEntry_comes hdoc (show "context" ≠ "name" by decide)
      "contexts" ((contextName? a (membersOf doc)).getD syntheticName)
    exact hentry.bind ((hplace.lay_comes (.pure _)).bind ((makeCurrent_comes _ _ _ _).bind
      (.pure _)))

/-! ## The patch -/

theorem patchInPlace_idle {a : Access} (h : ¬ a.Sets) (doc : Json) :
    patchInPlace a doc = pure doc := by
  rw [not_sets_iff] at h
  rw [patchInPlace, h.1, h.2]
  rfl

theorem patchInPlace_of_sets {a : Access} (h : a.Sets) (doc : Json) :
    patchInPlace a doc = settleInPlace a doc >>= fun s =>
      overrideInPlace "clusters" "cluster" s.2.1 (!a.clusterOverrides.isEmpty)
        (pure a.clusterOverrides) s.1 >>= fun doc =>
      overrideInPlace "users" "user" s.2.2 (!a.userOverrides.isEmpty) a.spellUser doc := by
  have hsome := overrides_of_sets h
  rw [patchInPlace, if_neg (by simpa using hsome)]

/-- In an object, and in null, a patch in place has no fault. -/
theorem patchInPlace_comes {a : Access} (h : a.Sets) (hdoc : Patchable doc) :
    (patchInPlace a doc).Comes (.object (patchMembers a (membersOf doc))) := by
  rw [patchInPlace_of_sets h]
  refine (settle_comes a hdoc).bind ?_
  refine (override_comes (by decide) "clusters" _ (.pure a.clusterOverrides) _).bind ?_
  exact override_comes (by decide) "users" _ (spellUser_comes a) _

/-- In any other value the first thing that is written to is the fault. -/
theorem patchInPlace_of_not_patchable {a : Access} (h : a.Sets) (hdoc : ¬ Patchable doc) :
    patchInPlace a doc = ⟨[.member "contexts" doc], none⟩ := by
  have hcontext : selectedContext? a (membersOf doc) = none := by
    cases hselected : selectedContext? a (membersOf doc) with
    | none => rfl
    | some ctx => exact absurd (eq_object_of_selected hselected ▸ patchable_object _) hdoc
  have hsettle : settleInPlace a doc = ⟨[.member "contexts" doc], none⟩ := by
    rw [settleInPlace, contextName?_eq, contextIn?_eq, hcontext]
    dsimp only
    rw [namedEntry_of_not_patchable hdoc]
    rfl
  rw [patchInPlace_of_sets h, hsettle]
  rfl

theorem patch?_of_not_patchable {a : Access} (h : a.Sets) (hdoc : ¬ Patchable doc) :
    patch? a doc = none := by
  have hsome := overrides_of_sets h
  cases doc with
  | null => exact absurd (.inl rfl) hdoc
  | object ms => exact absurd (patchable_object ms) hdoc
  | _ => exact if_neg hsome

/-- Where a patch in place is at fault, and what it writes to where it is not. -/
structure PatchFaults (a : Access) (doc : Json) : Prop where
  /-- A patch faults exactly if there is something to override in a value that has no members. -/
  faults : (patchInPlace a doc).result = none ↔ a.Sets ∧ ¬ Patchable doc
  /-- A patch that faults does so before anything is changed. -/
  first : a.Sets → ¬ Patchable doc → (patchInPlace a doc).touched = [.member "contexts" doc]
  /-- In an object or null, whatever is found there, each member that is written to is one of an
  object or null, each item is in its list, and each entry that is opened is had. -/
  sound : Patchable doc → ∀ t ∈ (patchInPlace a doc).touched, t.Sound
  /-- In an object or null, an entry is found or made by any name and in any list. -/
  opened : Patchable doc → ∀ list name body, body ≠ "name" →
    ∃ place, Located list name body doc place ∧
      (namedEntry list name body doc).Comes ⟨place.replace place.part, some place⟩
  /-- Without anything to override, nothing is written to. -/
  idle : ¬ a.Sets → (patchInPlace a doc).touched = []
  /-- The patch in place is the patch. -/
  same : (patchInPlace a doc).result = patch? a doc

theorem patchInPlace_faults_iff (a : Access) (doc : Json) : PatchFaults a doc where
  faults := by
    by_cases hsets : a.Sets
    · by_cases hdoc : Patchable doc
      · simp [(patchInPlace_comes hsets hdoc).result, hdoc]
      · simp [patchInPlace_of_not_patchable hsets hdoc, hsets, hdoc]
    · rw [patchInPlace_idle hsets]
      exact iff_of_false (by simp [pure]) (fun h => hsets h.1)
  first hsets hdoc := by rw [patchInPlace_of_not_patchable hsets hdoc]
  sound hdoc := by
    by_cases hsets : a.Sets
    · exact (patchInPlace_comes hsets hdoc).sound
    · rw [patchInPlace_idle hsets]
      exact (Comes.pure doc).sound
  opened hdoc list name body hbody := namedEntry_comes hdoc hbody list name
  idle hsets := by
    rw [patchInPlace_idle hsets]
    rfl
  same := by
    by_cases hsets : a.Sets
    · by_cases hdoc : Patchable doc
      · rw [(patchInPlace_comes hsets hdoc).result, patch?_patchable hsets hdoc]
      · rw [patchInPlace_of_not_patchable hsets hdoc, patch?_of_not_patchable hsets hdoc]
    · rw [patchInPlace_idle hsets, patch?_idle hsets]
      rfl

-- Nothing in this document is of the kind that is looked for, apart from a name.
example : (patchInPlace { token := some "t" } (.object [
    ("contexts", .bool true), ("current-context", .array []),
    ("users", .array [.null, .object [("name", .string "tunnelward"), ("user", .nat 5)]])])).result =
  some (.object [
    ("contexts", .array [.object [("name", .string "tunnelward"), ("context", .object
      [("cluster", .string "tunnelward"), ("user", .string "tunnelward")])]]),
    ("current-context", .string "tunnelward"),
    ("users", .array [.null, .object [("name", .string "tunnelward"), ("user", .object
      [("token", .string "t")])]])]) := rfl

end PortTunnel.Cluster
