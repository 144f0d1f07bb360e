import PortTunnel.Proofs.Cluster.Patch

/-!
# A patch part by part

A patch settles the context and then lays overrides over two lists of the document, each of which
it reads and writes alone.

* `layer`: the overrides of a cluster and a user on a document, and what comes of each member.
* `patch?_patchable`, `patch?_idle`: a patch of an object or null, and one with nothing to override.
-/

namespace PortTunnel.Cluster

open Json (put find? find?_put_self find?_put_of_ne)

/-! ## One list -/

/-- Either no entry has a name, or one is the first to have it. -/
theorem exists_first (name : String) (es : List Json) :
    (∀ e ∈ es, ¬ isNamed name e) ∨ ∃ before entry after, es = before ++ entry :: after ∧
      isNamed name entry ∧ ∀ e ∈ before, ¬ isNamed name e := by
  cases hfind : es.find? (isNamed name) with
  | none => exact .inl (List.find?_eq_none.mp hfind)
  | some entry =>
    obtain ⟨hname, before, after, hes, hfirst⟩ := List.find?_eq_some_iff_append.mp hfind
    exact .inr ⟨before, entry, after, hes, hname, by simpa using hfirst⟩

section changeNamed

variable {name body : String}

theorem changeNamed_found {before after : List Json} {entry : Json} (hname : isNamed name entry)
    (hfirst : ∀ e ∈ before, ¬ isNamed name e) (new : Members) :
    changeNamed name body new (before ++ entry :: after) =
      before ++ changeBody body new entry :: after := by
  induction before with
  | nil => rw [List.nil_append, changeNamed, if_pos hname, List.nil_append]
  | cons e before ih =>
    have hrest := ih fun x hx => hfirst x (List.mem_cons_of_mem _ hx)
    rw [List.cons_append, changeNamed, if_neg (hfirst e List.mem_cons_self), hrest,
      List.cons_append]

theorem changeNamed_made {es : List Json} (hfresh : ∀ e ∈ es, ¬ isNamed name e) (new : Members) :
    changeNamed name body new es =
      es ++ [.object [("name", .string name), (body, .object (putAll new []))]] := by
  induction es with
  | nil => rfl
  | cons e es ih =>
    have hrest := ih fun x hx => hfresh x (List.mem_cons_of_mem _ hx)
    rw [changeNamed, if_neg (hfresh e List.mem_cons_self), hrest, List.cons_append]

end changeNamed

/-- What overrides make of a list of the document. -/
def overridden (body : String) (name : Option String) (new : Members) (list : Option Json) :
    Option Json :=
  match name, new with
  | some name, _ :: _ =>
    some (.array (changeNamed name body new ((list.bind Json.items?).getD [])))
  | _, _ => list

theorem find?_overrideEntry_self (list body : String) (name : Option String) (new doc : Members) :
    find? list (overrideEntry list body name new doc) = overridden body name new (find? list doc) := by
  cases name with
  | none => rfl
  | some name =>
    cases new with
    | nil => rfl
    | cons m new => exact find?_put_self _ _ _

theorem find?_overrideEntry_of_ne {list other : String} (h : list ≠ other) (body : String)
    (name : Option String) (new doc : Members) :
    find? other (overrideEntry list body name new doc) = find? other doc := by
  unfold overrideEntry
  split
  · exact find?_put_of_ne h _ _
  · rfl

/-! ## Both lists -/

/-- The overrides of a cluster and a user on a document. -/
def layer (cluster user : Option String) (newCluster newUser doc : Members) : Members :=
  overrideEntry "users" "user" user newUser
    (overrideEntry "clusters" "cluster" cluster newCluster doc)

theorem patchMembers_eq (a : Access) (ms : Members) :
    patchMembers a ms = layer (settle a ms).2.1 (settle a ms).2.2 a.clusterOverrides
      a.userOverrides (settle a ms).1 := rfl

section layer

variable (cluster user : Option String) (newCluster newUser doc : Members)

theorem find?_layer_users :
    find? "users" (layer cluster user newCluster newUser doc) =
      overridden "user" user newUser (find? "users" doc) := by
  rw [layer, find?_overrideEntry_self, find?_overrideEntry_of_ne (by decide)]

theorem find?_layer_clusters :
    find? "clusters" (layer cluster user newCluster newUser doc) =
      overridden "cluster" cluster newCluster (find? "clusters" doc) := by
  rw [layer, find?_overrideEntry_of_ne (by decide), find?_overrideEntry_self]

theorem find?_layer_of_ne {key : String} (husers : "users" ≠ key) (hclusters : "clusters" ≠ key) :
    find? key (layer cluster user newCluster newUser doc) = find? key doc := by
  rw [layer, find?_overrideEntry_of_ne husers, find?_overrideEntry_of_ne hclusters]

theorem chosenContext?_layer (a : Access) :
    chosenContext? a (.object (layer cluster user newCluster newUser doc)) =
      chosenContext? a (.object doc) := by
  rw [layer, chosenContext?_overrideEntry (by decide) (by decide),
    chosenContext?_overrideEntry (by decide) (by decide)]

end layer

/-! ## The patch -/

/-- Whether anything is laid over the document. -/
def Access.Sets (a : Access) : Prop := a.SetsCluster ∨ a.SetsUser

theorem sets_iff (a : Access) : a.Sets ↔ a.clusterOverrides ≠ [] ∨ a.userOverrides ≠ [] := by
  rw [clusterOverrides_ne_nil, userOverrides_ne_nil, Access.Sets]

theorem not_sets_iff (a : Access) :
    ¬ a.Sets ↔ a.clusterOverrides = [] ∧ a.userOverrides = [] := by
  rw [sets_iff, not_or, ne_eq, ne_eq, Classical.not_not, Classical.not_not]

/-- An object or null, which stands for an object without members. -/
def Patchable (doc : Json) : Prop := doc = .null ∨ ∃ ms, doc = .object ms

def membersOf (doc : Json) : Members := doc.members?.getD []

theorem patch?_idle {a : Access} (h : ¬ a.Sets) (doc : Json) : patch? a doc = some doc := by
  rw [not_sets_iff] at h
  have hempty : (a.clusterOverrides.isEmpty && a.userOverrides.isEmpty) = true := by
    rw [h.1, h.2]
    rfl
  unfold patch?
  exact if_pos hempty

theorem patch?_patchable {a : Access} (h : a.Sets) {doc : Json} (hdoc : Patchable doc) :
    patch? a doc = some (.object (patchMembers a (membersOf doc))) := by
  rcases hdoc with rfl | ⟨ms, rfl⟩
  · exact (patch?_null h).trans (patch?_object h [])
  · exact patch?_object h ms

theorem chosenContext?_membersOf (a : Access) {doc : Json} (hdoc : Patchable doc) :
    chosenContext? a (.object (membersOf doc)) = chosenContext? a doc := by
  rcases hdoc with rfl | ⟨ms, rfl⟩ <;> rfl

end PortTunnel.Cluster
