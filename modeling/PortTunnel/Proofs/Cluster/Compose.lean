import PortTunnel.Proofs.Cluster.Layer
import PortTunnel.Proofs.Json.Meaning

/-!
# Patches compose

Two patches that select the same context, cluster and user amount to one: that of the settings
of the second, and of those of the first where the second has none.

* `Access.over`: the settings of one access over those of another.
* `settle_patchMembers`: after a patch the context is settled, with the names that the patch used.
* `layer_layer`: overrides laid over a document twice are the overrides of both, laid over it once.
* `patch_compose`: the documents mean the same; and a patch that is repeated finds all that it
  put there and changes nothing.
-/

namespace PortTunnel.Cluster

open Json (put find? find?_cons memberMeanings memberMeanings_eq memberMeanings_congr
  memberMeanings_put)

/-! ## Two accesses -/

/-- Both say the same about which context, cluster and user to select. -/
structure Access.SelectsAs (a b : Access) : Prop where
  context : a.context = b.context
  cluster : a.contextCluster = b.contextCluster
  user : a.contextUser = b.contextUser

/-- Every setting of the first access, and of the second where the first has none. A login program
is taken as a whole. -/
def Access.over (b a : Access) : Access where
  host := b.host <|> a.host
  username := b.username <|> a.username
  password := b.password <|> a.password
  insecure := b.insecure || a.insecure
  tlsServerName := b.tlsServerName <|> a.tlsServerName
  clientCertificate := b.clientCertificate <|> a.clientCertificate
  clientKey := b.clientKey <|> a.clientKey
  authority := b.authority <|> a.authority
  paths := b.paths <|> a.paths
  path := b.path <|> a.path
  context := b.context <|> a.context
  contextUser := b.contextUser <|> a.contextUser
  contextCluster := b.contextCluster <|> a.contextCluster
  token := b.token <|> a.token
  proxyUrl := b.proxyUrl <|> a.proxyUrl
  exec := b.exec <|> a.exec

theorem Access.SelectsAs.refl (a : Access) : a.SelectsAs a := ⟨rfl, rfl, rfl⟩

theorem Access.SelectsAs.over {a b : Access} (h : a.SelectsAs b) : a.SelectsAs (b.over a) := by
  have hself (x : Option String) : x = (x <|> x) := by cases x <;> rfl
  constructor
  · rw [Access.over, ← h.context]
    exact hself _
  · rw [Access.over, ← h.cluster]
    exact hself _
  · rw [Access.over, ← h.user]
    exact hself _

/-! ## Overrides of both -/

theorem find?_clusterOverrides_over (a b : Access) (key : String) :
    find? key (b.over a).clusterOverrides =
      (find? key b.clusterOverrides <|> find? key a.clusterOverrides) := by
  have hflag : (if b.insecure || a.insecure then some (Json.bool true) else none) =
      ((if b.insecure then some (.bool true) else none) <|>
        if a.insecure then some (.bool true) else none) := by
    cases b.insecure <;> cases a.insecure <;> rfl
  simp only [find?_clusterOverrides, Access.over, hflag]
  split_ifs <;> simp [Option.map_or]

theorem find?_userOverrides_over (a b : Access) (key : String) :
    find? key (b.over a).userOverrides =
      (find? key b.userOverrides <|> find? key a.userOverrides) := by
  simp only [find?_userOverrides, Access.over]
  split_ifs <;> simp [Option.map_or]

theorem putAll_append (new more ms : Members) :
    putAll (new ++ more) ms = putAll more (putAll new ms) :=
  List.foldl_append ..

theorem putAll_of_find? {new ms : Members} (h : ∀ m ∈ new, find? m.1 ms = some m.2) :
    putAll new ms = ms := by
  induction new with
  | nil => rfl
  | cons m new ih =>
    have hput : put m.1 m.2 ms = ms := Json.put_of_find? (h m List.mem_cons_self)
    rw [putAll, List.foldl_cons, hput]
    exact ih fun n hn => h n (List.mem_cons_of_mem _ hn)

/-- Members that have been put are there when they are put again. -/
theorem putAll_putAll {new : Members} (hnodup : (new.map (·.1)).Nodup) (ms : Members) :
    putAll new (putAll new ms) = putAll new ms :=
  putAll_of_find? fun _ hm => find?_putAll hnodup (Json.find?_of_mem hnodup hm) ms

/-! ## Entries that are changed twice -/

theorem changeBody_changeBody (body : String) (new more : Members) (entry : Json) :
    changeBody body more (changeBody body new entry) = changeBody body (new ++ more) entry := by
  cases entry with
  | object ms => simp [changeBody, Json.set, Json.get?, Json.members?, Json.put_put, putAll_append]
  | _ => rfl

theorem changeNamed_changeNamed {body : String} (hbody : body ≠ "name") (name : String)
    (new more : Members) (es : List Json) :
    changeNamed name body more (changeNamed name body new es) =
      changeNamed name body (new ++ more) es := by
  induction es with
  | nil =>
    -- The entry that the first change adds is the one that the second finds.
    have hnamed : isNamed name
        (.object [("name", .string name), (body, .object (putAll new []))]) := by
      simp [isNamed, Json.member_object, find?_cons, Json.text?]
    simp only [changeNamed, if_pos hnamed]
    simp [changeBody, Json.set, Json.get?, Json.members?, put, find?_cons, hbody.symm,
      putAll_append]
  | cons e es ih =>
    by_cases he : isNamed name e
    · have hstill : isNamed name (changeBody body new e) :=
        (isNamed_changeBody hbody name new e).trans he
      simp only [changeNamed, if_pos he, if_pos hstill, changeBody_changeBody]
    · simp only [changeNamed, if_neg he, ih]

/-- A list of entries depends on what is put in no other way than through what comes of it. -/
theorem changeNamed_congr {new more : Members} (h : ∀ old, putAll new old = putAll more old)
    (name body : String) (es : List Json) :
    changeNamed name body new es = changeNamed name body more es := by
  induction es with
  | nil => rw [changeNamed, changeNamed, h]
  | cons e es ih => rw [changeNamed, changeNamed, ih, changeBody, changeBody, h]

/-- Members that come to the same, whatever they are laid over. -/
structure Alike (new more : Members) : Prop where
  empty : new = [] ↔ more = []
  meaning : ∀ old, memberMeanings (putAll new old) = memberMeanings (putAll more old)

theorem Alike.changeBody {new more : Members} (h : Alike new more) (body : String) (entry : Json) :
    (changeBody body new entry).meaning = (changeBody body more entry).meaning := by
  cases entry with
  | object ms =>
    simp only [Cluster.changeBody, Json.set, Json.meaning_object, memberMeanings_put, h.meaning]
  | _ => rfl

theorem Alike.changeNamed {new more : Members} (h : Alike new more) (name body : String)
    (es : List Json) :
    (changeNamed name body new es).map Json.meaning =
      (changeNamed name body more es).map Json.meaning := by
  induction es with
  | nil =>
    simp only [Cluster.changeNamed, List.map_cons, Json.meaning_object, Json.memberMeanings,
      h.meaning]
  | cons e es ih =>
    by_cases he : isNamed name e
    · simp only [Cluster.changeNamed, if_pos he, List.map_cons, h.changeBody]
    · simp only [Cluster.changeNamed, if_neg he, List.map_cons, ih]

/-- The overrides of two accesses, one after the other, come to those of both. -/
theorem alike_append {first second both : Members} (hfirst : (first.map (·.1)).Nodup)
    (hsecond : (second.map (·.1)).Nodup) (hboth : (both.map (·.1)).Nodup)
    (h : ∀ key, find? key both = (find? key second <|> find? key first)) :
    Alike (first ++ second) both := by
  constructor
  · rw [List.append_eq_nil_iff, Json.eq_nil_iff_find?, Json.eq_nil_iff_find?, Json.eq_nil_iff_find?,
      ← forall_and]
    refine forall_congr' fun key => ?_
    rw [h]
    cases find? key second <;> cases find? key first <;> simp
  · intro old
    refine memberMeanings_congr fun key => ?_
    rw [putAll_append, find?_putAll_eq hsecond, find?_putAll_eq hfirst, find?_putAll_eq hboth, h]
    cases find? key second <;> cases find? key first <;> rfl

theorem alike_clusterOverrides (a b : Access) :
    Alike (a.clusterOverrides ++ b.clusterOverrides) (b.over a).clusterOverrides :=
  alike_append (nodup_clusterOverrides a) (nodup_clusterOverrides b) (nodup_clusterOverrides _)
    (find?_clusterOverrides_over a b)

theorem alike_userOverrides (a b : Access) :
    Alike (a.userOverrides ++ b.userOverrides) (b.over a).userOverrides :=
  alike_append (nodup_userOverrides a) (nodup_userOverrides b) (nodup_userOverrides _)
    (find?_userOverrides_over a b)

/-! ## Lists that are overridden twice -/

theorem overridden_overridden {body : String} (hbody : body ≠ "name") (name : Option String)
    (new more : Members) (list : Option Json) :
    overridden body name more (overridden body name new list) =
      overridden body name (new ++ more) list := by
  cases name with
  | none => rfl
  | some name =>
    cases new with
    | nil => rfl
    | cons m new =>
      cases more with
      | nil =>
        rw [List.append_nil]
        rfl
      | cons n more =>
        exact congrArg (some ∘ Json.array)
          (changeNamed_changeNamed hbody name (m :: new) (n :: more) _)

/-- A list that has been overridden stays as it is when that is repeated. -/
theorem overridden_self {body : String} (hbody : body ≠ "name") (name : Option String)
    {new : Members} (hnodup : (new.map (·.1)).Nodup) (list : Option Json) :
    overridden body name new (overridden body name new list) = overridden body name new list := by
  rw [overridden_overridden hbody]
  cases name with
  | none => rfl
  | some name =>
    cases new with
    | nil => rfl
    | cons m new =>
      have hsame : ∀ old, putAll (m :: new ++ m :: new) old = putAll (m :: new) old := by
        intro old
        rw [putAll_append, putAll_putAll hnodup]
      exact congrArg (some ∘ Json.array) (changeNamed_congr hsame name body _)

theorem Alike.overridden {new more : Members} (h : Alike new more) (body : String)
    (name : Option String) (list : Option Json) :
    (overridden body name new list).map Json.meaning =
      (overridden body name more list).map Json.meaning := by
  cases name with
  | none => rfl
  | some name =>
    cases new with
    | nil => rw [h.empty.mp rfl]
    | cons m new =>
      cases more with
      | nil => cases h.empty.mpr rfl
      | cons n more =>
        simp only [Cluster.overridden, Option.map_some, Json.meaning_array, h.changeNamed]

theorem overrideEntry_of_find? {list body : String} {name : Option String} {new doc : Members}
    (h : overridden body name new (find? list doc) = find? list doc) :
    overrideEntry list body name new doc = doc := by
  cases name with
  | none => rfl
  | some name =>
    cases new with
    | nil => rfl
    | cons m new => exact Json.put_of_find? h.symm

/-! ## Documents -/

section layer

variable (cluster user : Option String) (newCluster newUser moreCluster moreUser doc : Members)

/-- What a document means once overrides are laid over it: its two lists and the rest count each
for itself. -/
theorem memberMeanings_layer {other : Members}
    (hclusters : (overridden "cluster" cluster newCluster (find? "clusters" doc)).map Json.meaning =
      (overridden "cluster" cluster moreCluster (find? "clusters" other)).map Json.meaning)
    (husers : (overridden "user" user newUser (find? "users" doc)).map Json.meaning =
      (overridden "user" user moreUser (find? "users" other)).map Json.meaning)
    (hrest : ∀ key, "users" ≠ key → "clusters" ≠ key → find? key doc = find? key other) :
    memberMeanings (layer cluster user newCluster newUser doc) =
      memberMeanings (layer cluster user moreCluster moreUser other) := by
  funext key
  rw [memberMeanings_eq, memberMeanings_eq]
  by_cases hkey : "users" = key
  · subst hkey
    rw [find?_layer_users, find?_layer_users, husers]
  · by_cases hother : "clusters" = key
    · subst hother
      rw [find?_layer_clusters, find?_layer_clusters, hclusters]
    · rw [find?_layer_of_ne _ _ _ _ _ hkey hother, find?_layer_of_ne _ _ _ _ _ hkey hother,
        hrest key hkey hother]

/-- Overrides that are laid over a document in two turns: the lists of clusters and users do not
get in each other's way. -/
theorem layer_layer :
    memberMeanings (layer cluster user moreCluster moreUser
        (layer cluster user newCluster newUser doc)) =
      memberMeanings (layer cluster user (newCluster ++ moreCluster) (newUser ++ moreUser) doc) := by
  apply memberMeanings_layer
  · rw [find?_layer_clusters, overridden_overridden (by decide)]
  · rw [find?_layer_users, overridden_overridden (by decide)]
  · intro key husers hclusters
    exact find?_layer_of_ne _ _ _ _ _ husers hclusters

theorem layer_congr (hcluster : Alike newCluster moreCluster) (huser : Alike newUser moreUser) :
    memberMeanings (layer cluster user newCluster newUser doc) =
      memberMeanings (layer cluster user moreCluster moreUser doc) := by
  apply memberMeanings_layer
  · exact hcluster.overridden _ _ _
  · exact huser.overridden _ _ _
  · intro key _ _
    rfl

theorem layer_self (hcluster : (newCluster.map (·.1)).Nodup) (huser : (newUser.map (·.1)).Nodup) :
    layer cluster user newCluster newUser (layer cluster user newCluster newUser doc) =
      layer cluster user newCluster newUser doc := by
  have hclusters : overrideEntry "clusters" "cluster" cluster newCluster
      (layer cluster user newCluster newUser doc) = layer cluster user newCluster newUser doc := by
    refine overrideEntry_of_find? ?_
    rw [find?_layer_clusters]
    exact overridden_self (by decide) _ hcluster _
  rw [layer, hclusters]
  -- The clusters are as they were, so the users are looked up in the same document as before.
  refine overrideEntry_of_find? ?_
  rw [find?_layer_users]
  exact overridden_self (by decide) _ huser _

end layer

/-! ## The context is settled once -/

theorem settle_congr {a b : Access} (h : a.SelectsAs b) (ms : Members) : settle a ms = settle b ms := by
  simp only [settle, selectedContext?, contextName?, h.context, h.cluster, h.user]

/-- The names that a patch writes into a context are those that it reads there afterwards. -/
theorem settle_patchMembers (a : Access) (ms : Members) :
    settle a (patchMembers a ms) = (patchMembers a ms, (settle a ms).2) := by
  obtain ⟨context, hcontext, hcluster, huser, -, -⟩ := settle_spec a ms
  have hafter : chosenContext? a (.object (patchMembers a ms)) = some context := by
    rw [patchMembers_eq, chosenContext?_layer]
    exact hcontext
  rw [settle_of_some hafter, ← hcluster, ← huser]

theorem patchMembers_patchMembers {a b : Access} (h : a.SelectsAs b) (ms : Members) :
    patchMembers b (patchMembers a ms) =
      layer (settle a ms).2.1 (settle a ms).2.2 b.clusterOverrides b.userOverrides
        (patchMembers a ms) := by
  rw [patchMembers_eq b, ← settle_congr h, settle_patchMembers]

theorem patchMembers_self (a : Access) (ms : Members) :
    patchMembers a (patchMembers a ms) = patchMembers a ms := by
  rw [patchMembers_patchMembers (.refl a), patchMembers_eq]
  exact layer_self _ _ _ _ _ (nodup_clusterOverrides a) (nodup_userOverrides a)

/-- The overrides of both accesses, in two lists one after the other, amount to their join. -/
theorem layer_over {a b : Access} (h : a.SelectsAs b) (ms : Members) :
    memberMeanings (layer (settle a ms).2.1 (settle a ms).2.2
        (a.clusterOverrides ++ b.clusterOverrides) (a.userOverrides ++ b.userOverrides)
        (settle a ms).1) =
      memberMeanings (patchMembers (b.over a) ms) := by
  rw [patchMembers_eq, ← settle_congr h.over]
  exact layer_congr _ _ _ _ _ _ _ (alike_clusterOverrides a b) (alike_userOverrides a b)

/-! ## The patches -/

theorem sets_over (a b : Access) : (b.over a).Sets ↔ a.Sets ∨ b.Sets := by
  simp only [sets_iff, ne_eq, ← (alike_clusterOverrides a b).empty, ← (alike_userOverrides a b).empty,
    List.append_eq_nil_iff]
  tauto

/-- What a patch finds that was there when the one before it was done: the context that was
selected or has been made up, and every entry that it is to change. -/
structure Found (a : Access) (before after : Json) : Prop where
  same : ∀ context, chosenContext? a before = some context → chosenContext? a after = some context
  context : (chosenContext? a after).isSome
  cluster : a.SetsCluster → ∀ context name, chosenContext? a after = some context →
    (a.contextCluster <|> namedPart? "cluster" context) = some name →
      (firstNamed? "clusters" name after).isSome
  user : a.SetsUser → ∀ context name, chosenContext? a after = some context →
    (a.contextUser <|> namedPart? "user" context) = some name →
      (firstNamed? "users" name after).isSome

theorem found_patchMembers (a : Access) (ms : Members) :
    Found a (.object ms) (.object (patchMembers a ms)) := by
  obtain ⟨settled, hsettled, hcluster, huser, -, -⟩ := settle_spec a ms
  have hafter : chosenContext? a (.object (patchMembers a ms)) = some settled := by
    rw [patchMembers_eq, chosenContext?_layer]
    exact hsettled
  constructor
  · intro context hcontext
    rw [patchMembers_eq, chosenContext?_layer, settle_of_some hcontext]
    exact hcontext
  · rw [hafter]
    rfl
  · intro hsets context name hcontext hname
    rw [hafter] at hcontext
    cases hcontext
    rw [patchMembers_eq, hcluster.trans hname, layer, firstNamed?_overrideEntry_of_ne (by decide)]
    obtain ⟨entry, old, hentry, -⟩ := firstNamed?_overrideEntry (show "cluster" ≠ "name" by decide)
      "clusters" name (clusterOverrides_ne_nil.mpr hsets) (settle a ms).1
    rw [hentry]
    rfl
  · intro hsets context name hcontext hname
    rw [hafter] at hcontext
    cases hcontext
    rw [patchMembers_eq, huser.trans hname, layer]
    obtain ⟨entry, old, hentry, -⟩ := firstNamed?_overrideEntry (show "user" ≠ "name" by decide)
      "users" name (userOverrides_ne_nil.mpr hsets) _
    rw [hentry]
    rfl

/-- A patch that is done again finds what it has made, and changes nothing. -/
theorem patch?_again {a : Access} {doc first : Json} (hdoc : Patchable doc)
    (hfirst : patch? a doc = some first) :
    patch? a first = some first ∧ (a.Sets → Found a doc first) := by
  by_cases ha : a.Sets
  · rw [patch?_patchable ha hdoc] at hfirst
    cases hfirst
    refine ⟨?_, fun _ => ?_⟩
    · rw [patch?_object ha, patchMembers_self]
    · have hfound := found_patchMembers a (membersOf doc)
      refine ⟨?_, hfound.context, hfound.cluster, hfound.user⟩
      intro context hcontext
      exact hfound.same context ((chosenContext?_membersOf a hdoc).trans hcontext)
  · rw [patch?_idle ha] at hfirst
    cases hfirst
    exact ⟨patch?_idle ha _, fun h => absurd h ha⟩

/-- Two patches mean the same as one with the settings of the second over those of the first. -/
theorem patch?_twice {a b : Access} (h : a.SelectsAs b) {doc : Json} (hdoc : Patchable doc) :
    ∃ first last both, patch? a doc = some first ∧ patch? b first = some last ∧
      patch? (b.over a) doc = some both ∧ last.meaning = both.meaning := by
  have hover := layer_over h (membersOf doc)
  -- An access that sets nothing leaves even null as it is, so each of the two is idle or not.
  by_cases ha : a.Sets <;> by_cases hb : b.Sets
  · refine ⟨_, _, _, patch?_patchable ha hdoc, patch?_object hb _,
      patch?_patchable ((sets_over a b).mpr (.inl ha)) hdoc, ?_⟩
    rw [Json.meaning_object, Json.meaning_object, ← hover, patchMembers_patchMembers h,
      patchMembers_eq, layer_layer]
  · refine ⟨_, _, _, patch?_patchable ha hdoc, patch?_idle hb _,
      patch?_patchable ((sets_over a b).mpr (.inl ha)) hdoc, ?_⟩
    rw [not_sets_iff] at hb
    rw [Json.meaning_object, Json.meaning_object, ← hover, hb.1, hb.2, List.append_nil,
      List.append_nil, patchMembers_eq]
  · refine ⟨_, _, _, patch?_idle ha doc, patch?_patchable hb hdoc,
      patch?_patchable ((sets_over a b).mpr (.inr hb)) hdoc, ?_⟩
    rw [not_sets_iff] at ha
    rw [Json.meaning_object, Json.meaning_object, ← hover, ha.1, ha.2, List.nil_append,
      List.nil_append, settle_congr h, patchMembers_eq]
  · have hboth : ¬ (b.over a).Sets := by
      rw [sets_over]
      exact fun hor => hor.elim ha hb
    exact ⟨_, _, _, patch?_idle ha doc, patch?_idle hb doc, patch?_idle hboth doc, rfl⟩

/-- Patches of the same selection compose, and each of them may be repeated. -/
theorem patch_compose (a b : Access) (h : a.SelectsAs b) (doc : Json) (hdoc : Patchable doc) :
    ∃ first last both, patch? a doc = some first ∧ patch? b first = some last ∧
      patch? (b.over a) doc = some both ∧ last.meaning = both.meaning ∧
      patch? a first = some first ∧ (a.Sets → Found a doc first) := by
  obtain ⟨first, last, both, hfirst, hlast, hboth, hmeaning⟩ := patch?_twice h hdoc
  exact ⟨first, last, both, hfirst, hlast, hboth, hmeaning, patch?_again hdoc hfirst⟩

/-- A document whose current context is not there. -/
def danglingContext : Json := .object [("current-context", .string "gone")]

theorem patch_compose_dangling :
    ∃ first last both, patch? { token := some "t" } danglingContext = some first ∧
      patch? { host := some "h" } first = some last ∧
      patch? { host := some "h", token := some "t" } danglingContext = some both ∧
      last.meaning = both.meaning ∧ Found { token := some "t" } danglingContext first := by
  obtain ⟨first, last, both, hfirst, hlast, hboth, hmeaning, -, hfound⟩ :=
    patch_compose { token := some "t" } { host := some "h" } ⟨rfl, rfl, rfl⟩
      danglingContext (.inr ⟨_, rfl⟩)
  exact ⟨first, last, both, hfirst, hlast, hboth, hmeaning, hfound (.inr (.inl (by simp)))⟩

end PortTunnel.Cluster
