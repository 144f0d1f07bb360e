import PortTunnel.Proofs.Cluster.Layer

/-!
# What a patch leaves alone

A patch writes to three lists of the document and to the name of the current context. In each list
it changes the body of one entry or adds one entry.

* `EntriesChanged`: what may come of the entries of a list; `EntriesChanged.nodup_names`: names
  that were distinct stay so.
* `PatchFrame`: a document after a patch beside the document before it.
* `patch_frame`: every patch leaves a document framed.
-/

namespace PortTunnel.Cluster

open Json (put find? find?_cons find?_put_self find?_put_of_ne without without_put find?_without)

/-! ## Members that overrides are for -/

/-- A member that belongs to a setting. -/
def keyFor (key : String) (isSet : Bool) : List String := if isSet then [key] else []

/-- The members of a cluster that belong to the settings that are there. -/
def Access.clusterKeys (a : Access) : List String :=
  keyFor "server" a.host.isSome ++ keyFor "insecure-skip-tls-verify" a.insecure ++
    keyFor "tls-server-name" a.tlsServerName.isSome ++
    keyFor "certificate-authority-data" a.authority.isSome ++ keyFor "proxy-url" a.proxyUrl.isSome

/-- The members of a user that belong to the settings that are there. -/
def Access.userKeys (a : Access) : List String :=
  keyFor "token" a.token.isSome ++ keyFor "username" a.username.isSome ++
    keyFor "password" a.password.isSome ++
    keyFor "client-certificate-data" a.clientCertificate.isSome ++
    keyFor "client-key-data" a.clientKey.isSome ++ keyFor "exec" a.exec.isSome

theorem map_overrideText (key : String) (value : Option String) :
    (overrideText key value).map (·.1) = keyFor key value.isSome := by
  cases value <;> rfl

theorem map_overridePem (key : String) (value : Option String) :
    (overridePem key value).map (·.1) = keyFor key value.isSome := by
  cases value <;> rfl

theorem map_clusterOverrides (a : Access) : a.clusterOverrides.map (·.1) = a.clusterKeys := by
  have hinsecure : (if a.insecure then [("insecure-skip-tls-verify", Json.bool true)] else []).map
      (·.1) = keyFor "insecure-skip-tls-verify" a.insecure := by
    cases a.insecure <;> rfl
  simp only [Access.clusterOverrides, Access.clusterKeys, List.map_append, map_overrideText,
    map_overridePem, hinsecure]

theorem map_userOverrides (a : Access) : a.userOverrides.map (·.1) = a.userKeys := by
  simp only [Access.userOverrides, Access.userKeys, List.map_append, map_overrideText,
    map_overridePem]
  cases a.exec <;> rfl

/-! ## One entry -/

theorem without_putAll {keys : List String} {new : Members} (h : ∀ m ∈ new, m.1 ∈ keys)
    (ms : Members) : without keys (putAll new ms) = without keys ms := by
  induction new generalizing ms with
  | nil => rfl
  | cons m new ih =>
    have hrest := ih (fun n hn => h n (List.mem_cons_of_mem _ hn)) (put m.1 m.2 ms)
    rw [putAll, List.foldl_cons]
    exact hrest.trans (without_put (h m List.mem_cons_self) _ _)

theorem mem_putAll {new ms : Members} {m : String × Json} (h : m ∈ putAll new ms) :
    m ∈ new ∨ m ∈ ms := by
  induction new generalizing ms with
  | nil => exact .inr h
  | cons n new ih =>
    rw [putAll, List.foldl_cons] at h
    rcases ih h with hnew | hput
    · exact .inl (List.mem_cons_of_mem _ hnew)
    · rcases Json.mem_put hput with heq | hms
      · exact .inl (heq ▸ List.mem_cons_self)
      · exact .inr hms

/-- An entry in which only the body differs. Where that was an object, only members of some keys
differ in it. -/
def BodyChanged (body : String) (keys : List String) (old new : Json) : Prop :=
  ∃ ms ns content, old = .object ms ∧ new = .object ns ∧ without [body] ns = without [body] ms ∧
    find? body ns = some (.object content) ∧
    ∀ was, find? body ms = some (.object was) → without keys content = without keys was

theorem bodyChanged_changeBody {name : String} {entry : Json} (h : isNamed name entry)
    (body : String) {keys : List String} {new : Members} (hkeys : ∀ m ∈ new, m.1 ∈ keys) :
    BodyChanged body keys entry (changeBody body new entry) := by
  obtain ⟨ms, rfl⟩ := isNamed_object h
  refine ⟨ms, _, _, rfl, rfl, without_put List.mem_cons_self _ _, find?_put_self _ _ _, ?_⟩
  intro was hwas
  have hold : ((Json.get? body (.object ms)).bind Json.members?).getD [] = was := by
    rw [Json.get?, hwas]
    rfl
  rw [hold]
  exact without_putAll hkeys was

/-- An entry keeps its name. -/
theorem BodyChanged.member_name {body : String} (hbody : body ≠ "name") {keys : List String}
    {old new : Json} (h : BodyChanged body keys old new) :
    new.member "name" = old.member "name" := by
  obtain ⟨ms, ns, content, rfl, rfl, hrest, -, -⟩ := h
  have hname : "name" ∉ [body] := fun hmem => hbody (List.mem_singleton.mp hmem).symm
  rw [Json.member_object, Json.member_object, ← find?_without hname ns, hrest, find?_without hname]

/-! ## A list of entries -/

/-- Either the body of the first entry of a name is changed, or an entry is added at the end, with
a name that no other has. -/
inductive EntriesChanged (body : String) (keys : List String) : List Json → List Json → Prop where
  | altered {before after : List Json} {entry changed : Json} {name : String}
    (hname : isNamed name entry) (hfirst : ∀ e ∈ before, ¬ isNamed name e)
    (hchanged : BodyChanged body keys entry changed) :
    EntriesChanged body keys (before ++ entry :: after) (before ++ changed :: after)
  | added {es : List Json} {name : String} {content : Members}
    (hfresh : ∀ e ∈ es, ¬ isNamed name e) (hcontent : ∀ m ∈ content, m.1 ∈ keys) :
    EntriesChanged body keys es
      (es ++ [.object [("name", .string name), (body, .object content)]])

theorem entriesChanged_changeNamed (name body : String) {keys : List String} {new : Members}
    (hkeys : ∀ m ∈ new, m.1 ∈ keys) (es : List Json) :
    EntriesChanged body keys es (changeNamed name body new es) := by
  rcases exists_first name es with hfresh | ⟨before, entry, after, rfl, hname, hfirst⟩
  · rw [changeNamed_made hfresh]
    refine .added hfresh ?_
    intro m hm
    rcases mem_putAll hm with hnew | hnil
    · exact hkeys m hnew
    · cases hnil
  · rw [changeNamed_found hname hfirst]
    exact .altered hname hfirst (bodyChanged_changeBody hname body hkeys)

/-- The names of entries; an entry without a name that is a text has none. -/
def entryNames (es : List Json) : List String := es.filterMap fun e => (e.member "name").text?

theorem mem_entryNames {name : String} {es : List Json} :
    name ∈ entryNames es ↔ ∃ e ∈ es, isNamed name e := by
  simp [entryNames, isNamed]

theorem EntriesChanged.nodup_names {body : String} (hbody : body ≠ "name") {keys : List String}
    {old new : List Json} (h : EntriesChanged body keys old new) (hnodup : (entryNames old).Nodup) :
    (entryNames new).Nodup := by
  cases h with
  | altered _ _ hchanged =>
    simp only [entryNames, List.filterMap_append, List.filterMap_cons] at hnodup ⊢
    rw [hchanged.member_name hbody]
    exact hnodup
  | @added _ name content hfresh _ =>
    have hnew : entryNames [.object [("name", .string name), (body, .object content)]] = [name] := by
      simp [entryNames, Json.member_object, find?_cons, Json.text?]
    have happend : ∀ es, entryNames (old ++ es) = entryNames old ++ entryNames es :=
      fun es => List.filterMap_append ..
    rw [happend, hnew, List.nodup_append]
    refine ⟨hnodup, List.pairwise_singleton .., ?_⟩
    rintro other hother _ hname rfl
    obtain ⟨e, he, hnamed⟩ := mem_entryNames.mp hother
    exact hfresh e he (List.mem_singleton.mp hname ▸ hnamed)

/-! ## A list of the document -/

/-- A list of the document is not there, or it is an array. -/
def Lists (list : String) (doc : Members) (es : List Json) : Prop :=
  (find? list doc = none ∧ es = []) ∨ find? list doc = some (.array es)

theorem Lists.items {list : String} {doc : Members} {es : List Json} (h : Lists list doc es) :
    ((find? list doc).bind Json.items?).getD [] = es := by
  rcases h with ⟨hnone, rfl⟩ | hsome
  · rw [hnone]
    rfl
  · rw [hsome]
    rfl

/-- A list is as it was, or one entry of it is changed or added. -/
def ListFramed (list body : String) (keys : List String) (before after : Members) : Prop :=
  find? list after = find? list before ∨
    ∃ old new, Lists list before old ∧ find? list after = some (.array new) ∧
      EntriesChanged body keys old new

variable {list body : String} {keys : List String} {new before after : Members}

theorem listFramed_of_changeNamed {es : List Json} (hlist : Lists list before es) {name : String}
    (hkeys : ∀ m ∈ new, m.1 ∈ keys)
    (hafter : find? list after = some (.array (changeNamed name body new es))) :
    ListFramed list body keys before after :=
  .inr ⟨es, _, hlist, hafter, entriesChanged_changeNamed name body hkeys es⟩

theorem listFramed_of_overridden {es : List Json} (hlist : Lists list before es)
    {name : Option String} (hkeys : ∀ m ∈ new, m.1 ∈ keys)
    (hafter : find? list after = overridden body name new (find? list before)) :
    ListFramed list body keys before after := by
  cases name with
  | none => exact .inl hafter
  | some name =>
    cases new with
    | nil => exact .inl hafter
    | cons m new =>
      rw [overridden, hlist.items] at hafter
      exact listFramed_of_changeNamed hlist hkeys hafter

theorem listMember_congr (h : find? list after = find? list before) :
    listMember list after = listMember list before := by
  rw [listMember, listMember, h]

theorem ListFramed.nodup_names (hbody : body ≠ "name") (h : ListFramed list body keys before after)
    (hnodup : (entryNames (listMember list before)).Nodup) :
    (entryNames (listMember list after)).Nodup := by
  rcases h with hsame | ⟨old, new, hold, hnew, hchanged⟩
  · rwa [listMember_congr hsame]
  · have hbefore : listMember list before = old := hold.items
    have hafter : listMember list after = new := by
      rw [listMember, hnew]
      rfl
    rw [hafter]
    exact hchanged.nodup_names hbody (hbefore ▸ hnodup)

/-! ## The context -/

/-- The list of contexts with one more, or with one changed. -/
def withContext (name cluster user : String) (ms : Members) : Members :=
  changeEntry "contexts" name "context" [("cluster", .string cluster), ("user", .string user)] ms

/-- The name of the current context stays if it says something; otherwise it is set. -/
theorem addContext_cases (name cluster user : String) (ms : Members) :
    (addContext name cluster user ms = withContext name cluster user ms) ∨
      (addContext name cluster user ms =
          put "current-context" (.string name) (withContext name cluster user ms) ∧
        ∀ current, find? "current-context" ms = some (.string current) → current = "") := by
  have hkeep : find? "current-context" (withContext name cluster user ms) =
      find? "current-context" ms :=
    find?_put_of_ne (by decide) _ _
  rw [addContext, ← withContext]
  -- The name is read after the list was written, where it is still what it was before.
  split
  · rename_i current hcurrent
    split
    · rename_i hempty
      refine .inr ⟨rfl, ?_⟩
      intro other hother
      rw [hkeep, hother] at hcurrent
      cases hcurrent
      exact String.isEmpty_iff.mp hempty
    · exact .inl rfl
  · rename_i hnone
    refine .inr ⟨rfl, ?_⟩
    intro other hother
    rw [hkeep, hother] at hnone
    cases hnone

theorem find?_addContext_of_ne {key : String} (hcontexts : "contexts" ≠ key)
    (hcurrent : "current-context" ≠ key) (name cluster user : String) (ms : Members) :
    find? key (addContext name cluster user ms) = find? key ms := by
  have hkeep : find? key (withContext name cluster user ms) = find? key ms :=
    find?_put_of_ne hcontexts _ _
  rcases addContext_cases name cluster user ms with hsame | ⟨hput, -⟩
  · rw [hsame, hkeep]
  · rw [hput, find?_put_of_ne hcurrent, hkeep]

theorem find?_addContext_contexts (name cluster user : String) (ms : Members) :
    find? "contexts" (addContext name cluster user ms) =
      some (.array (changeNamed name "context"
        [("cluster", .string cluster), ("user", .string user)] (listMember "contexts" ms))) := by
  have hlist : find? "contexts" (withContext name cluster user ms) = some (.array (changeNamed name
      "context" [("cluster", .string cluster), ("user", .string user)] (listMember "contexts" ms))) :=
    find?_put_self _ _ _
  rcases addContext_cases name cluster user ms with hsame | ⟨hput, -⟩
  · rw [hsame, hlist]
  · rw [hput, find?_put_of_ne (by decide), hlist]

theorem without_addContext {names : List String} (hcontexts : "contexts" ∈ names)
    (hcurrent : "current-context" ∈ names) (name cluster user : String) (ms : Members) :
    without names (addContext name cluster user ms) = without names ms := by
  have hkeep : without names (withContext name cluster user ms) = without names ms :=
    without_put hcontexts _ _
  rcases addContext_cases name cluster user ms with hsame | ⟨hput, -⟩
  · rw [hsame, hkeep]
  · rw [hput, without_put hcurrent, hkeep]

/-- What the context of a patch is settled to: nothing changes if it is there; otherwise it is
added, in the list of contexts and, where no other is current, as the current one. -/
theorem settle_cases (a : Access) (ms : Members) :
    (settle a ms).1 = ms ∨
      chosenContext? a (.object ms) = none ∧
        ∃ name cluster user, (settle a ms).1 = addContext name cluster user ms := by
  cases h : chosenContext? a (.object ms) with
  | some context => exact .inl (by rw [settle_of_some h])
  | none => exact .inr ⟨rfl, _, _, _, by rw [settle_of_none h]⟩

theorem settle_of_chosen {a : Access} {ms : Members} (h : chosenContext? a (.object ms) ≠ none) :
    (settle a ms).1 = ms := by
  rcases settle_cases a ms with hsame | ⟨hnone, -⟩
  · exact hsame
  · exact absurd hnone h

theorem find?_settle {key : String} (hcontexts : "contexts" ≠ key)
    (hcurrent : "current-context" ≠ key) (a : Access) (ms : Members) :
    find? key (settle a ms).1 = find? key ms := by
  rcases settle_cases a ms with hsame | ⟨-, name, cluster, user, hadded⟩
  · rw [hsame]
  · rw [hadded, find?_addContext_of_ne hcontexts hcurrent]

/-! ## The document -/

/-- What a patch may write to. -/
def written : List String := ["contexts", "clusters", "users", "current-context"]

/-- The lists of a document. -/
def entryLists : List String := ["contexts", "clusters", "users"]

/-- A document after a patch beside the document before it. -/
structure PatchFrame (a : Access) (before after : Members) : Prop where
  /-- All members but those that are written to stay, in their order. -/
  others : without written after = without written before
  /-- The current context changes only if no context was selected and there was no name for one. -/
  current : find? "current-context" after ≠ find? "current-context" before →
    chosenContext? a (.object before) = none ∧
      ∀ name, find? "current-context" before = some (.string name) → name = ""
  contexts : ListFramed "contexts" "context" ["cluster", "user"] before after
  clusters : ListFramed "clusters" "cluster" a.clusterKeys before after
  users : ListFramed "users" "user" a.userKeys before after
  /-- The contexts stay if one of them was selected. -/
  sameContexts : chosenContext? a (.object before) ≠ none →
    find? "contexts" after = find? "contexts" before
  /-- The clusters stay if no setting of a cluster is there. -/
  sameClusters : ¬ a.SetsCluster → find? "clusters" after = find? "clusters" before
  /-- The users stay if no setting of a user is there. -/
  sameUsers : ¬ a.SetsUser → find? "users" after = find? "users" before
  /-- Names that were distinct in a list stay so. -/
  names : ∀ list ∈ entryLists, (entryNames (listMember list before)).Nodup →
    (entryNames (listMember list after)).Nodup

theorem patchFrame_self (a : Access) (ms : Members) : PatchFrame a ms ms where
  others := rfl
  current h := absurd rfl h
  contexts := .inl rfl
  clusters := .inl rfl
  users := .inl rfl
  sameContexts _ := rfl
  sameClusters _ := rfl
  sameUsers _ := rfl
  names _ _ h := h

theorem without_overrideEntry {names : List String} {list : String} (h : list ∈ names)
    (body : String) (name : Option String) (new doc : Members) :
    without names (overrideEntry list body name new doc) = without names doc := by
  unfold overrideEntry
  split
  · exact without_put h _ _
  · rfl

theorem without_patchMembers (a : Access) (ms : Members) :
    without written (patchMembers a ms) = without written ms := by
  rw [patchMembers_eq, layer, without_overrideEntry (by decide), without_overrideEntry (by decide)]
  rcases settle_cases a ms with hsame | ⟨-, name, cluster, user, hadded⟩
  · rw [hsame]
  · rw [hadded, without_addContext (by decide) (by decide)]

theorem current_patchMembers {a : Access} {ms : Members}
    (h : find? "current-context" (patchMembers a ms) ≠ find? "current-context" ms) :
    chosenContext? a (.object ms) = none ∧
      ∀ name, find? "current-context" ms = some (.string name) → name = "" := by
  rw [patchMembers_eq, find?_layer_of_ne _ _ _ _ _ (by decide) (by decide)] at h
  rcases settle_cases a ms with hsame | ⟨hnone, name, cluster, user, hadded⟩
  · rw [hsame] at h
    exact absurd rfl h
  · refine ⟨hnone, ?_⟩
    rcases addContext_cases name cluster user ms with hkept | ⟨-, hempty⟩
    · rw [hadded, hkept, withContext, changeEntry, find?_put_of_ne (by decide)] at h
      exact absurd rfl h
    · exact hempty

theorem contexts_patchMembers (a : Access) {ms : Members} {es : List Json}
    (h : Lists "contexts" ms es) :
    ListFramed "contexts" "context" ["cluster", "user"] ms (patchMembers a ms) := by
  have hlayer : find? "contexts" (patchMembers a ms) = find? "contexts" (settle a ms).1 := by
    rw [patchMembers_eq, find?_layer_of_ne _ _ _ _ _ (by decide) (by decide)]
  rcases settle_cases a ms with hsame | ⟨-, name, cluster, user, hadded⟩
  · exact .inl (by rw [hlayer, hsame])
  · have hitems : listMember "contexts" ms = es := h.items
    rw [hadded, find?_addContext_contexts, hitems] at hlayer
    refine listFramed_of_changeNamed h ?_ hlayer
    intro m hm
    rcases List.mem_cons.mp hm with rfl | hm
    · exact List.mem_cons_self
    · rw [List.mem_singleton.mp hm]
      exact List.mem_cons_of_mem _ List.mem_cons_self

theorem clusters_patchMembers (a : Access) (ms : Members) :
    find? "clusters" (patchMembers a ms) =
      overridden "cluster" (settle a ms).2.1 a.clusterOverrides (find? "clusters" ms) := by
  rw [patchMembers_eq, find?_layer_clusters, find?_settle (by decide) (by decide)]

theorem users_patchMembers (a : Access) (ms : Members) :
    find? "users" (patchMembers a ms) =
      overridden "user" (settle a ms).2.2 a.userOverrides (find? "users" ms) := by
  rw [patchMembers_eq, find?_layer_users, find?_settle (by decide) (by decide)]

theorem overridden_nil (body : String) (name : Option String) (list : Option Json) :
    overridden body name [] list = list := by
  cases name <;> rfl

theorem patchFrame_patchMembers (a : Access) {ms : Members}
    (hlists : ∀ list ∈ entryLists, ∃ es, Lists list ms es) :
    PatchFrame a ms (patchMembers a ms) := by
  obtain ⟨contexts, hcontexts⟩ := hlists "contexts" (by decide)
  obtain ⟨clusters, hclusters⟩ := hlists "clusters" (by decide)
  obtain ⟨users, husers⟩ := hlists "users" (by decide)
  have hcontextsFramed := contexts_patchMembers a hcontexts
  have hclustersFramed : ListFramed "clusters" "cluster" a.clusterKeys ms (patchMembers a ms) := by
    refine listFramed_of_overridden hclusters ?_ (clusters_patchMembers a ms)
    intro m hm
    rw [← map_clusterOverrides]
    exact List.mem_map_of_mem hm
  have husersFramed : ListFramed "users" "user" a.userKeys ms (patchMembers a ms) := by
    refine listFramed_of_overridden husers ?_ (users_patchMembers a ms)
    intro m hm
    rw [← map_userOverrides]
    exact List.mem_map_of_mem hm
  constructor
  · exact without_patchMembers a ms
  · exact current_patchMembers
  · exact hcontextsFramed
  · exact hclustersFramed
  · exact husersFramed
  · intro hchosen
    rw [patchMembers_eq, find?_layer_of_ne _ _ _ _ _ (by decide) (by decide),
      settle_of_chosen hchosen]
  · intro hsets
    rw [← clusterOverrides_ne_nil, ne_eq, Classical.not_not] at hsets
    rw [clusters_patchMembers, hsets, overridden_nil]
  · intro hsets
    rw [← userOverrides_ne_nil, ne_eq, Classical.not_not] at hsets
    rw [users_patchMembers, hsets, overridden_nil]
  · intro list hlist hnodup
    simp only [entryLists, List.mem_cons, List.not_mem_nil, or_false] at hlist
    rcases hlist with rfl | rfl | rfl
    · exact hcontextsFramed.nodup_names (by decide) hnodup
    · exact hclustersFramed.nodup_names (by decide) hnodup
    · exact husersFramed.nodup_names (by decide) hnodup

/-- A patch leaves alone what it is not for. -/
theorem patch_frame (a : Access) (doc : Json) (hdoc : Patchable doc)
    (hlists : ∀ list ∈ entryLists, ∃ es, Lists list (membersOf doc) es) :
    ∃ after, patch? a doc = some after ∧ (a.Sets → ∃ ms, after = .object ms) ∧
      (¬ a.Sets → after = doc) ∧ PatchFrame a (membersOf doc) (membersOf after) := by
  by_cases hsets : a.Sets
  · exact ⟨_, patch?_patchable hsets hdoc, fun _ => ⟨_, rfl⟩, fun h => absurd hsets h,
      patchFrame_patchMembers a hlists⟩
  · exact ⟨doc, patch?_idle hsets doc, fun h => absurd h hsets, fun _ => rfl, patchFrame_self a _⟩

theorem patch_frame_single :
    ∃ after, patch? { token := some "t" } (singleContext (some "u")) = some after ∧
      PatchFrame { token := some "t" } (membersOf (singleContext (some "u")))
        (membersOf after) := by
  obtain ⟨after, hafter, -, -, hframed⟩ :=
    patch_frame { token := some "t" } (singleContext (some "u")) (.inr ⟨_, rfl⟩) (by
      intro list hlist
      simp only [entryLists, List.mem_cons, List.not_mem_nil, or_false] at hlist
      rcases hlist with rfl | rfl | rfl
      · exact ⟨_, .inr rfl⟩
      · exact ⟨[], .inl ⟨rfl, rfl⟩⟩
      · exact ⟨[], .inl ⟨rfl, rfl⟩⟩)
  exact ⟨after, hafter, hframed⟩

end PortTunnel.Cluster
