import PortTunnel.Cluster.Patch
import PortTunnel.Proofs.Json.Members
import PortTunnel.Proofs.Text.Base64

/-!
# Where overrides land

What a client selects in a configuration document, and which of the overrides it finds
there once they are laid over the document.

* `chosenContext?`, `selectedBody?`: the selection of a client.
* `ClusterCarries`, `UserCarries`: a body in which every override that is set is found.
* `patch_override_found_iff`: a selected context always exists, and overrides reach the selected
  cluster or user exactly if the context that was there names one or the settings do.
-/

namespace PortTunnel.Cluster

open Json (put find? find?_cons find?_append find?_put_self find?_put_of_ne)

/-! ## What a client selects -/

/-- The first entry of a name in a list of the document. -/
def firstNamed? (list name : String) (doc : Json) : Option Json :=
  (((doc.get? list).bind Json.items?).getD []).find? (isNamed name)

/-- The entry of the selected context: of the one in the settings or else the current one. -/
def chosenContext? (a : Access) (doc : Json) : Option Json := do
  let name ← a.context <|> (doc.get? "current-context").bind Json.text?
  firstNamed? "contexts" name doc

/-- The name under which the selected context knows its cluster or its user. -/
def namedPart? (part : String) (context : Json) : Option String :=
  ((context.member "context").member part).text?

/-- The body of the selected cluster or user, of the name in the settings or else of the name
in the context. -/
def selectedBody? (list part : String) (own : Option String) (a : Access) (doc : Json) :
    Option Json := do
  let context ← chosenContext? a doc
  let name ← own <|> namedPart? part context
  let entry ← firstNamed? list name doc
  entry.get? part

def clusterBody? (a : Access) (doc : Json) : Option Json :=
  selectedBody? "clusters" "cluster" a.contextCluster a doc

def userBody? (a : Access) (doc : Json) : Option Json :=
  selectedBody? "users" "user" a.contextUser a doc

/-! ## What is to be found there -/

/-- Whether a setting is laid over the cluster. -/
def Access.SetsCluster (a : Access) : Prop :=
  a.host ≠ none ∨ a.insecure ∨ a.tlsServerName ≠ none ∨ a.authority ≠ none ∨ a.proxyUrl ≠ none

/-- Whether a setting is laid over the user. -/
def Access.SetsUser (a : Access) : Prop :=
  a.token ≠ none ∨ a.username ≠ none ∨ a.password ≠ none ∨ a.clientCertificate ≠ none ∨
    a.clientKey ≠ none ∨ a.exec ≠ none

/-- A text stands under a key. -/
def CarriesText (body : Json) (key : String) (value : Option String) : Prop :=
  ∀ s, value = some s → body.get? key = some (.string s)

/-- The base64 of a PEM text stands under a key. -/
def CarriesPem (body : Json) (key : String) (value : Option String) : Prop :=
  ∀ pem, value = some pem → ∃ data, body.get? key = some (.string data) ∧
    Text.Base64.decode .standard (Text.Utf8.encode data.toList) = .ok (Text.Utf8.encode pem.toList)

structure ClusterCarries (a : Access) (body : Json) : Prop where
  server : CarriesText body "server" a.host
  insecure : a.insecure → body.get? "insecure-skip-tls-verify" = some (.bool true)
  tlsServerName : CarriesText body "tls-server-name" a.tlsServerName
  authority : CarriesPem body "certificate-authority-data" a.authority
  proxyUrl : CarriesText body "proxy-url" a.proxyUrl

/-- A login program with its arguments and its environment, each of them absent if the
settings have none. -/
structure LoginCarries (e : ExecLogin) (login : Json) : Prop where
  command : login.get? "command" = some (.string e.command)
  apiVersion : login.get? "apiVersion" = some (.string e.apiVersion)
  args : login.get? "args" = e.args.map Json.ofTexts
  env : login.get? "env" = e.env.map fun env => .array <| env.entries.map fun v =>
    .object [("name", .string v.1), ("value", .string v.2)]

structure UserCarries (a : Access) (body : Json) : Prop where
  token : CarriesText body "token" a.token
  username : CarriesText body "username" a.username
  password : CarriesText body "password" a.password
  clientCertificate : CarriesPem body "client-certificate-data" a.clientCertificate
  clientKey : CarriesPem body "client-key-data" a.clientKey
  exec : ∀ e, a.exec = some e → ∃ login, body.get? "exec" = some login ∧ LoginCarries e login

/-- A client finds every override of the cluster. -/
def ClusterLanded (a : Access) (doc : Json) : Prop :=
  ∃ body, clusterBody? a doc = some body ∧ ClusterCarries a body

/-- A client finds every override of the user. -/
def UserLanded (a : Access) (doc : Json) : Prop :=
  ∃ body, userBody? a doc = some body ∧ UserCarries a body

/-- Whether a cluster or user is named: by the settings, or by the selected context, unless
there is none and one has to be made up. -/
def PartNamed (part : String) (own : Option String) (a : Access) (doc : Json) : Prop :=
  own ≠ none ∨ ∀ context, chosenContext? a doc = some context → namedPart? part context ≠ none

/-! ## Putting several members -/

theorem find?_putAll_of_ne {name : String} {new : Members} (h : ∀ m ∈ new, m.1 ≠ name)
    (ms : Members) : find? name (putAll new ms) = find? name ms := by
  induction new generalizing ms with
  | nil => rfl
  | cons m new ih =>
    have hrest := ih (fun n hn => h n (List.mem_cons_of_mem _ hn)) (put m.1 m.2 ms)
    rw [putAll, List.foldl_cons]
    exact hrest.trans (find?_put_of_ne (h m List.mem_cons_self) m.2 ms)

theorem find?_putAll {name : String} {value : Json} {new : Members}
    (hnodup : (new.map (·.1)).Nodup) (h : find? name new = some value) (ms : Members) :
    find? name (putAll new ms) = some value := by
  induction new generalizing ms with
  | nil => cases h
  | cons m new ih =>
    rw [List.map_cons, List.nodup_cons] at hnodup
    rw [find?_cons] at h
    rw [putAll, List.foldl_cons]
    by_cases hm : m.1 = name
    · rw [if_pos hm] at h
      cases h
      subst hm
      have hne : ∀ n ∈ new, n.1 ≠ m.1 := fun n hn heq =>
        hnodup.1 (heq ▸ List.mem_map_of_mem hn)
      exact (find?_putAll_of_ne hne _).trans (find?_put_self _ _ _)
    · rw [if_neg hm] at h
      exact ih hnodup.2 h _

/-- Members that are put prevail over those that were there. -/
theorem find?_putAll_eq {new : Members} (hnodup : (new.map (·.1)).Nodup) (name : String)
    (ms : Members) : find? name (putAll new ms) = (find? name new <|> find? name ms) := by
  cases h : find? name new with
  | none => exact find?_putAll_of_ne (Json.find?_eq_none_iff.mp h) ms
  | some value => exact find?_putAll hnodup h ms

/-! ## The overrides as members -/

theorem find?_overrideText (name key : String) (value : Option String) :
    find? name (overrideText key value) = if key = name then value.map .string else none := by
  cases value <;> simp [overrideText, find?_cons]

theorem find?_overrideFlag (name key : String) (flag : Bool) :
    find? name (if flag then [(key, Json.bool true)] else []) =
      if key = name ∧ flag then some (.bool true) else none := by
  cases flag <;> simp [find?_cons]

/-- The base64 of a PEM text, as it is embedded. -/
def pemData (pem : String) : String :=
  String.ofList (Text.Base64.encode .standard (Text.Utf8.encode pem.toList))

theorem find?_overridePem (name key : String) (value : Option String) :
    find? name (overridePem key value) =
      if key = name then value.map fun pem => .string (pemData pem) else none := by
  cases value <;> simp [overridePem, pemData, find?_cons]

theorem decode_pemData (pem : String) :
    Text.Base64.decode .standard (Text.Utf8.encode (pemData pem).toList) =
      .ok (Text.Utf8.encode pem.toList) := by
  rw [pemData, String.toList_ofList]
  exact Text.Base64.decode_encode Text.Base64.standard_sound _

theorem names_overrideText (key : String) (value : Option String) :
    ((overrideText key value).map (·.1)).Sublist [key] := by
  cases value <;> simp [overrideText]

theorem names_overridePem (key : String) (value : Option String) :
    ((overridePem key value).map (·.1)).Sublist [key] := by
  cases value <;> simp [overridePem]

theorem nodup_clusterOverrides (a : Access) : (a.clusterOverrides.map (·.1)).Nodup := by
  have hinsecure : ((if a.insecure then [("insecure-skip-tls-verify", Json.bool true)] else []).map
      (·.1)).Sublist ["insecure-skip-tls-verify"] := by
    cases a.insecure <;> simp
  have hkeys : ["server", "insecure-skip-tls-verify", "tls-server-name",
      "certificate-authority-data", "proxy-url"].Nodup := by decide
  refine hkeys.sublist ?_
  simp only [Access.clusterOverrides, List.map_append]
  exact ((((names_overrideText _ _).append hinsecure).append (names_overrideText _ _)).append
    (names_overridePem _ _)).append (names_overrideText _ _)

theorem nodup_userOverrides (a : Access) : (a.userOverrides.map (·.1)).Nodup := by
  have hkeys : ["token", "username", "password", "client-certificate-data", "client-key-data",
      "exec"].Nodup := by decide
  refine hkeys.sublist ?_
  simp only [Access.userOverrides, List.map_append]
  refine (((((names_overrideText _ _).append (names_overrideText _ _)).append
    (names_overrideText _ _)).append (names_overridePem _ _)).append
      (names_overridePem _ _)).append ?_
  cases a.exec with
  | none => exact List.nil_sublist _
  | some e => exact List.Sublist.refl _

theorem find?_clusterOverrides (a : Access) (key : String) :
    find? key a.clusterOverrides =
      if "server" = key then a.host.map .string
      else if "insecure-skip-tls-verify" = key then
        (if a.insecure then some (.bool true) else none)
      else if "tls-server-name" = key then a.tlsServerName.map .string
      else if "certificate-authority-data" = key then a.authority.map fun pem => .string (pemData pem)
      else if "proxy-url" = key then a.proxyUrl.map .string
      else none := by
  simp only [Access.clusterOverrides, find?_append, find?_overrideText, find?_overridePem,
    find?_overrideFlag]
  by_cases hserver : "server" = key
  · subst hserver
    simp
  by_cases hinsecure : "insecure-skip-tls-verify" = key
  · subst hinsecure
    simp
  by_cases hname : "tls-server-name" = key
  · subst hname
    simp
  by_cases hauthority : "certificate-authority-data" = key
  · subst hauthority
    simp
  · simp [hserver, hinsecure, hname, hauthority]

theorem find?_userOverrides (a : Access) (key : String) :
    find? key a.userOverrides =
      if "token" = key then a.token.map .string
      else if "username" = key then a.username.map .string
      else if "password" = key then a.password.map .string
      else if "client-certificate-data" = key then
        a.clientCertificate.map fun pem => .string (pemData pem)
      else if "client-key-data" = key then a.clientKey.map fun pem => .string (pemData pem)
      else if "exec" = key then a.exec.map (·.toConfig)
      else none := by
  have hexec : find? key (Access.userOverrides { exec := a.exec }) =
      if "exec" = key then a.exec.map (·.toConfig) else none := by
    cases a.exec <;> simp [Access.userOverrides, overrideText, overridePem, find?_cons]
  have hparts : a.userOverrides = overrideText "token" a.token ++
      overrideText "username" a.username ++ overrideText "password" a.password ++
      overridePem "client-certificate-data" a.clientCertificate ++
      overridePem "client-key-data" a.clientKey ++ Access.userOverrides { exec := a.exec } := rfl
  simp only [hparts, find?_append, find?_overrideText, find?_overridePem, hexec]
  by_cases htoken : "token" = key
  · subst htoken
    simp
  by_cases husername : "username" = key
  · subst husername
    simp
  by_cases hpassword : "password" = key
  · subst hpassword
    simp
  by_cases hcertificate : "client-certificate-data" = key
  · subst hcertificate
    simp
  by_cases hkey : "client-key-data" = key
  · subst hkey
    simp
  · simp [htoken, husername, hpassword, hcertificate, hkey]

theorem loginCarries_toConfig (e : ExecLogin) : LoginCarries e e.toConfig := by
  obtain ⟨version, command, env, args⟩ := e
  constructor
  · rfl
  · rfl
  · cases args <;> cases env <;> rfl
  · cases args <;> cases env <;> rfl

theorem clusterCarries_putAll (a : Access) (old : Members) :
    ClusterCarries a (.object (putAll a.clusterOverrides old)) := by
  have hput : ∀ {key value}, find? key a.clusterOverrides = some value →
      Json.get? key (.object (putAll a.clusterOverrides old)) = some value :=
    fun h => find?_putAll (nodup_clusterOverrides a) h old
  constructor
  · intro s hs
    exact hput (by simp [Access.clusterOverrides, find?_append, find?_overrideText, hs])
  · intro hi
    exact hput (by simp [Access.clusterOverrides, find?_append, find?_overrideText, find?_cons,
      hi])
  · intro s hs
    exact hput (by simp [Access.clusterOverrides, find?_append, find?_overrideText,
      find?_overrideFlag, hs])
  · intro pem hpem
    exact ⟨pemData pem, hput (by simp [Access.clusterOverrides, find?_append, find?_overrideText,
      find?_overrideFlag, find?_overridePem, hpem]), decode_pemData pem⟩
  · intro s hs
    exact hput (by simp [Access.clusterOverrides, find?_append, find?_overrideText,
      find?_overrideFlag, find?_overridePem, hs])

theorem userCarries_putAll (a : Access) (old : Members) :
    UserCarries a (.object (putAll a.userOverrides old)) := by
  have hput : ∀ {key value}, find? key a.userOverrides = some value →
      Json.get? key (.object (putAll a.userOverrides old)) = some value :=
    fun h => find?_putAll (nodup_userOverrides a) h old
  constructor
  · intro s hs
    exact hput (by simp [Access.userOverrides, find?_append, find?_overrideText, hs])
  · intro s hs
    exact hput (by simp [Access.userOverrides, find?_append, find?_overrideText, hs])
  · intro s hs
    exact hput (by simp [Access.userOverrides, find?_append, find?_overrideText, hs])
  · intro pem hpem
    exact ⟨pemData pem, hput (by simp [Access.userOverrides, find?_append, find?_overrideText,
      find?_overridePem, hpem]), decode_pemData pem⟩
  · intro pem hpem
    exact ⟨pemData pem, hput (by simp [Access.userOverrides, find?_append, find?_overrideText,
      find?_overridePem, hpem]), decode_pemData pem⟩
  · intro e he
    exact ⟨e.toConfig, hput (by simp [Access.userOverrides, find?_append, find?_overrideText,
      find?_overridePem, find?_cons, he]), loginCarries_toConfig e⟩

theorem clusterOverrides_ne_nil {a : Access} : a.clusterOverrides ≠ [] ↔ a.SetsCluster := by
  obtain ⟨host, _, _, insecure, server, _, _, authority, _, _, _, _, _, _, proxy, _⟩ := a
  cases host <;> cases insecure <;> cases server <;> cases authority <;> cases proxy <;>
    simp [Access.clusterOverrides, Access.SetsCluster, overrideText, overridePem]

theorem userOverrides_ne_nil {a : Access} : a.userOverrides ≠ [] ↔ a.SetsUser := by
  obtain ⟨_, username, password, _, _, certificate, key, _, _, _, _, _, _, token, _, exec⟩ := a
  cases username <;> cases password <;> cases certificate <;> cases key <;> cases token <;>
    cases exec <;> simp [Access.userOverrides, Access.SetsUser, overrideText, overridePem]

/-! ## Entries -/

theorem isNamed_object {name : String} {entry : Json} (h : isNamed name entry) :
    ∃ ms, entry = .object ms := by
  cases entry with
  | object ms => exact ⟨ms, rfl⟩
  | _ => simp [isNamed, Json.member, Json.get?, Json.text?] at h

theorem isNamed_changeBody {body : String} (hbody : body ≠ "name") (name : String)
    (new : Members) (entry : Json) :
    isNamed name (changeBody body new entry) = isNamed name entry := by
  cases entry with
  | object ms =>
    have hmember : (changeBody body new (.object ms)).member "name" =
        (Json.object ms).member "name" := by
      simp [changeBody, Json.set, Json.member_object, find?_put_of_ne hbody]
    rw [isNamed, isNamed, hmember]
  | _ => rfl

theorem get?_changeBody {name : String} {entry : Json} (h : isNamed name entry) (body : String)
    (new : Members) :
    ∃ old, (changeBody body new entry).get? body = some (.object (putAll new old)) := by
  obtain ⟨ms, rfl⟩ := isNamed_object h
  exact ⟨_, find?_put_self _ _ _⟩

theorem find?_changeNamed {body : String} (hbody : body ≠ "name") (name : String) (new : Members)
    (es : List Json) :
    ∃ entry old, (changeNamed name body new es).find? (isNamed name) = some entry ∧
      entry.get? body = some (.object (putAll new old)) := by
  induction es with
  | nil =>
    have hne : "name" ≠ body := fun h => hbody h.symm
    refine ⟨_, [], List.find?_cons_of_pos ?_, ?_⟩
    · simp [isNamed, Json.member_object, find?_cons, Json.text?]
    · simp [Json.get?, find?_cons, hne]
  | cons e es ih =>
    by_cases he : isNamed name e
    · obtain ⟨old, hold⟩ := get?_changeBody he body new
      refine ⟨changeBody body new e, old, ?_, hold⟩
      rw [changeNamed, if_pos he]
      exact List.find?_cons_of_pos ((isNamed_changeBody hbody name new e).trans he)
    · obtain ⟨entry, old, hfind, hold⟩ := ih
      refine ⟨entry, old, ?_, hold⟩
      rw [changeNamed, if_neg he]
      exact (List.find?_cons_of_neg he).trans hfind

theorem firstNamed?_object (list name : String) (ms : Members) :
    firstNamed? list name (.object ms) = (listMember list ms).find? (isNamed name) := rfl

theorem firstNamed?_changeEntry {body : String} (hbody : body ≠ "name") (list name : String)
    (new ms : Members) :
    ∃ entry old, firstNamed? list name (.object (changeEntry list name body new ms)) = some entry ∧
      entry.get? body = some (.object (putAll new old)) := by
  obtain ⟨entry, old, hfind, hold⟩ := find?_changeNamed hbody name new (listMember list ms)
  refine ⟨entry, old, ?_, hold⟩
  rw [firstNamed?_object, changeEntry, listMember, find?_put_self]
  exact hfind

theorem firstNamed?_put_of_ne {key list : String} (h : key ≠ list) (value : Json) (name : String)
    (ms : Members) :
    firstNamed? list name (.object (put key value ms)) = firstNamed? list name (.object ms) := by
  rw [firstNamed?_object, firstNamed?_object, listMember, find?_put_of_ne h, listMember]

theorem chosenContext?_put_of_ne {key : String} (hlist : key ≠ "contexts")
    (hcurrent : key ≠ "current-context") (value : Json) (a : Access) (ms : Members) :
    chosenContext? a (.object (put key value ms)) = chosenContext? a (.object ms) := by
  simp only [chosenContext?, Json.get?, find?_put_of_ne hcurrent, firstNamed?_put_of_ne hlist]

/-! ## The context -/

theorem chosenContext?_object (a : Access) (ms : Members) :
    chosenContext? a (.object ms) =
      (contextName? a ms).bind fun name => firstNamed? "contexts" name (.object ms) := rfl

theorem selectedContext?_eq (a : Access) (ms : Members) :
    selectedContext? a ms = (chosenContext? a (.object ms)).map (·.member "context") := by
  rw [chosenContext?_object, selectedContext?]
  cases contextName? a ms with
  | none => rfl
  | some name =>
    show ((firstNamed? "contexts" name (.object ms)).bind fun e => some (e.member "context")) =
      (firstNamed? "contexts" name (.object ms)).map (·.member "context")
    cases firstNamed? "contexts" name (.object ms) <;> rfl

theorem contextName?_changeEntry {list : String} (h : list ≠ "current-context") (a : Access)
    (name body : String) (new ms : Members) :
    contextName? a (changeEntry list name body new ms) = contextName? a ms := by
  rw [contextName?, changeEntry, find?_put_of_ne h, contextName?]

/-- What is current before a context is added stays current, unless it says nothing. -/
theorem contextName?_addContext (a : Access) (cluster user : String) (ms : Members) {name : String}
    (hname : (contextName? a ms).getD syntheticName = name) :
    contextName? a (addContext name cluster user ms) = some name := by
  have hput : ∀ doc, contextName? a (put "current-context" (.string name) doc) = some name := by
    intro doc
    rw [contextName?, find?_put_self]
    cases hown : a.context with
    | none => rfl
    | some own =>
      rw [contextName?, hown] at hname
      exact congrArg some hname
  have hframe := contextName?_changeEntry (show "contexts" ≠ "current-context" by decide) a name
    "context" [("cluster", .string cluster), ("user", .string user)] ms
  rw [addContext]
  split
  · rename_i current hcurrent
    split
    · exact hput _
    · rw [contextName?, hcurrent] at hframe ⊢
      rw [← hname, ← hframe]
      cases a.context <;> rfl
  · exact hput _

/-- A context that is made up is the selected one, with the names it was given. -/
theorem chosenContext?_addContext (a : Access) (cluster user : String) (ms : Members) :
    ∃ context, chosenContext? a (.object
        (addContext ((contextName? a ms).getD syntheticName) cluster user ms)) = some context ∧
      namedPart? "cluster" context = some cluster ∧ namedPart? "user" context = some user := by
  have hbody : "context" ≠ "name" := by decide
  have hne : "current-context" ≠ "contexts" := by decide
  have hkeys : "user" ≠ "cluster" := by decide
  generalize hname : (contextName? a ms).getD syntheticName = name
  obtain ⟨context, old, hentry, hold⟩ := firstNamed?_changeEntry hbody "contexts" name
    [("cluster", .string cluster), ("user", .string user)] ms
  have hmember : context.member "context" =
      .object (put "user" (.string user) (put "cluster" (.string cluster) old)) := by
    rw [Json.member, hold]
    rfl
  refine ⟨context, ?_, ?_, ?_⟩
  · rw [chosenContext?_object, contextName?_addContext a cluster user ms hname, Option.bind_some,
      ← hentry, addContext]
    split
    · split
      · exact firstNamed?_put_of_ne hne _ _ _
      · rfl
    · exact firstNamed?_put_of_ne hne _ _ _
  · rw [namedPart?, hmember, Json.member_object, find?_put_of_ne hkeys, find?_put_self]
    rfl
  · rw [namedPart?, hmember, Json.member_object, find?_put_self]
    rfl

theorem partNamed_iff {a : Access} {doc context : Json} (h : chosenContext? a doc = some context)
    (part : String) (own : Option String) :
    PartNamed part own a doc ↔ (own <|> namedPart? part context) ≠ none := by
  rw [PartNamed, h]
  cases own <;> simp

/-- A context that has to be made up names what the settings do not. -/
theorem partNamed_of_none {a : Access} {doc : Json} (h : chosenContext? a doc = none)
    (part : String) (own : Option String) : PartNamed part own a doc := by
  refine .inr ?_
  intro context hcontext
  rw [h] at hcontext
  cases hcontext

theorem settle_of_some {a : Access} {ms : Members} {context : Json}
    (h : chosenContext? a (.object ms) = some context) :
    settle a ms = (ms, a.contextCluster <|> namedPart? "cluster" context,
      a.contextUser <|> namedPart? "user" context) := by
  rw [settle, selectedContext?_eq, h]
  rfl

theorem settle_of_none {a : Access} {ms : Members} (h : chosenContext? a (.object ms) = none) :
    settle a ms =
      (addContext ((contextName? a ms).getD syntheticName)
        (a.contextCluster.getD syntheticName) (a.contextUser.getD syntheticName) ms,
        some (a.contextCluster.getD syntheticName), some (a.contextUser.getD syntheticName)) := by
  rw [settle, selectedContext?_eq, h]
  rfl

/-- After the context is settled, one is selected, and the names that are passed on are those
that a client finds. -/
theorem settle_spec (a : Access) (ms : Members) :
    ∃ context, chosenContext? a (.object (settle a ms).1) = some context ∧
      (settle a ms).2.1 = (a.contextCluster <|> namedPart? "cluster" context) ∧
      (settle a ms).2.2 = (a.contextUser <|> namedPart? "user" context) ∧
      ((settle a ms).2.1 ≠ none ↔ PartNamed "cluster" a.contextCluster a (.object ms)) ∧
      ((settle a ms).2.2 ≠ none ↔ PartNamed "user" a.contextUser a (.object ms)) := by
  cases hcontext : chosenContext? a (.object ms) with
  | some context =>
    rw [settle_of_some hcontext, partNamed_iff hcontext, partNamed_iff hcontext]
    exact ⟨context, hcontext, rfl, rfl, .rfl, .rfl⟩
  | none =>
    obtain ⟨context, hadded, hcluster, huser⟩ := chosenContext?_addContext a
      (a.contextCluster.getD syntheticName) (a.contextUser.getD syntheticName) ms
    have hown (own : Option String) :
        some (own.getD syntheticName) = (own <|> some (own.getD syntheticName)) := by
      cases own <;> rfl
    have hnamed (part : String) (own : Option String) :
        some (own.getD syntheticName) ≠ none ↔ PartNamed part own a (.object ms) :=
      iff_of_true (by simp) (partNamed_of_none hcontext part own)
    rw [settle_of_none hcontext]
    refine ⟨context, hadded, ?_, ?_, hnamed _ _, hnamed _ _⟩
    · rw [hcluster]
      exact hown _
    · rw [huser]
      exact hown _

/-! ## Overrides on an entry -/

theorem chosenContext?_overrideEntry {list : String} (hlist : list ≠ "contexts")
    (hcurrent : list ≠ "current-context") (a : Access) (body : String) (name : Option String)
    (new doc : Members) :
    chosenContext? a (.object (overrideEntry list body name new doc)) =
      chosenContext? a (.object doc) := by
  unfold overrideEntry
  split
  · exact chosenContext?_put_of_ne hlist hcurrent _ a doc
  · rfl

theorem firstNamed?_overrideEntry_of_ne {list other : String} (h : list ≠ other) (body : String)
    (name : Option String) (new doc : Members) (entry : String) :
    firstNamed? other entry (.object (overrideEntry list body name new doc)) =
      firstNamed? other entry (.object doc) := by
  unfold overrideEntry
  split
  · exact firstNamed?_put_of_ne h _ entry doc
  · rfl

theorem firstNamed?_overrideEntry {body : String} (hbody : body ≠ "name") (list name : String)
    {new : Members} (hnew : new ≠ []) (doc : Members) :
    ∃ entry old, firstNamed? list name (.object (overrideEntry list body (some name) new doc)) =
        some entry ∧ entry.get? body = some (.object (putAll new old)) := by
  obtain ⟨m, ms, rfl⟩ := List.exists_cons_of_ne_nil hnew
  exact firstNamed?_changeEntry hbody list name (m :: ms) doc

/-- A client finds what was laid over the entry of the name that it selects, if it selects
one. -/
theorem selectedBody?_iff {list part : String} {own : Option String} {a : Access} {doc : Json}
    {context : Json} {new : Members} {Carries : Json → Prop}
    (hcontext : chosenContext? a doc = some context)
    (hentry : ∀ name, (own <|> namedPart? part context) = some name →
      ∃ entry old, firstNamed? list name doc = some entry ∧
        entry.get? part = some (.object (putAll new old)))
    (hnew : ∀ old, Carries (.object (putAll new old))) :
    (∃ body, selectedBody? list part own a doc = some body ∧ Carries body) ↔
      (own <|> namedPart? part context) ≠ none := by
  have hbody : selectedBody? list part own a doc =
      (own <|> namedPart? part context).bind fun name =>
        (firstNamed? list name doc).bind fun entry => entry.get? part := by
    rw [selectedBody?, hcontext]
    rfl
  rw [hbody]
  cases hname : (own <|> namedPart? part context) with
  | none => simp
  | some name =>
    obtain ⟨entry, old, hfind, hold⟩ := hentry name hname
    simp only [Option.bind_some, hfind, hold]
    simpa using hnew old

/-! ## The patch -/

/-- The document with the overrides, for a document that is an object. -/
theorem patchMembers_override_found_iff (a : Access) (ms : Members) :
    (chosenContext? a (.object (patchMembers a ms))).isSome ∧
      (a.SetsCluster → (ClusterLanded a (.object (patchMembers a ms)) ↔
        PartNamed "cluster" a.contextCluster a (.object ms))) ∧
      (a.SetsUser → (UserLanded a (.object (patchMembers a ms)) ↔
        PartNamed "user" a.contextUser a (.object ms))) := by
  obtain ⟨context, hcontext, hcluster, huser, hclusterNamed, huserNamed⟩ := settle_spec a ms
  generalize hsettle : settle a ms = settled at hcontext hcluster huser hclusterNamed huserNamed
  obtain ⟨doc, cluster, user⟩ := settled
  have hpatch : patchMembers a ms = overrideEntry "users" "user" user a.userOverrides
      (overrideEntry "clusters" "cluster" cluster a.clusterOverrides doc) := by
    rw [patchMembers, hsettle]
  have hafter : chosenContext? a (.object (patchMembers a ms)) = some context := by
    rw [hpatch, chosenContext?_overrideEntry (by decide) (by decide),
      chosenContext?_overrideEntry (by decide) (by decide)]
    exact hcontext
  refine ⟨by rw [hafter]; rfl, ?_, ?_⟩
  · intro hsets
    rw [← hclusterNamed, ClusterLanded, clusterBody?, hcluster]
    refine selectedBody?_iff hafter ?_ (clusterCarries_putAll a)
    intro name hname
    rw [hpatch, firstNamed?_overrideEntry_of_ne (by decide), show cluster = some name from
      hcluster.trans hname]
    exact firstNamed?_overrideEntry (by decide) _ _ (clusterOverrides_ne_nil.mpr hsets) _
  · intro hsets
    rw [← huserNamed, UserLanded, userBody?, huser]
    refine selectedBody?_iff hafter ?_ (userCarries_putAll a)
    intro name hname
    rw [hpatch, show user = some name from huser.trans hname]
    exact firstNamed?_overrideEntry (by decide) _ _ (userOverrides_ne_nil.mpr hsets) _

theorem overrides_of_sets {a : Access} (h : a.SetsCluster ∨ a.SetsUser) :
    ¬ (a.clusterOverrides.isEmpty && a.userOverrides.isEmpty) := by
  rw [← clusterOverrides_ne_nil, ← userOverrides_ne_nil] at h
  simp only [Bool.and_eq_true, List.isEmpty_iff]
  rintro ⟨hcluster, huser⟩
  exact h.elim (absurd hcluster) (absurd huser)

theorem patch?_object {a : Access} (h : a.SetsCluster ∨ a.SetsUser) (ms : Members) :
    patch? a (.object ms) = some (.object (patchMembers a ms)) := by
  rw [patch?, if_neg (overrides_of_sets h)]

/-- Null stands for a document without members. -/
theorem patch?_null {a : Access} (h : a.SetsCluster ∨ a.SetsUser) :
    patch? a .null = patch? a (.object []) := by
  rw [patch?_object h, patch?, if_neg (overrides_of_sets h)]

/-- Overrides reach what a client selects, unless the selected context is there and names no
cluster, or no user, and neither do the settings. -/
theorem patch_override_found_iff (a : Access) (doc : Json)
    (hdoc : doc = .null ∨ ∃ ms, doc = .object ms) (hsets : a.SetsCluster ∨ a.SetsUser) :
    ∃ after, patch? a doc = some after ∧ (chosenContext? a after).isSome ∧
      (a.SetsCluster → (ClusterLanded a after ↔ PartNamed "cluster" a.contextCluster a doc)) ∧
      (a.SetsUser → (UserLanded a after ↔ PartNamed "user" a.contextUser a doc)) := by
  rcases hdoc with rfl | ⟨ms, rfl⟩
  · exact ⟨_, (patch?_null hsets).trans (patch?_object hsets []),
      patchMembers_override_found_iff a []⟩
  · exact ⟨_, patch?_object hsets ms, patchMembers_override_found_iff a ms⟩

/-- A document whose only context names a cluster and, if there is one, a user. -/
def singleContext (user : Option String) : Json :=
  .object [("current-context", .string "a"), ("contexts", .array [.object [("name", .string "a"),
    ("context", .object (("cluster", .string "k") :: overrideText "user" user))]])]

theorem patch_override_found_iff_named_user :
    ∃ after, patch? { token := some "t" } (singleContext (some "u")) = some after ∧
      UserLanded { token := some "t" } after := by
  have hsets : Access.SetsUser { token := some "t" } := .inl (by simp)
  obtain ⟨after, hafter, -, -, huser⟩ :=
    patch_override_found_iff { token := some "t" } (singleContext (some "u")) (.inr ⟨_, rfl⟩)
      (.inr hsets)
  refine ⟨after, hafter, (huser hsets).mpr (.inr ?_)⟩
  intro context hcontext
  cases hcontext
  exact fun h => nomatch h

/-- Where the context names no user, a token is dropped without a word. -/
theorem token_lost_without_user :
    Access.SetsUser { token := some "t" } ∧
      ¬ ∃ after, patch? { token := some "t" } (singleContext none) = some after ∧
        UserLanded { token := some "t" } after := by
  refine ⟨.inl (by simp), ?_⟩
  rintro ⟨after, hafter, body, hbody, -⟩
  have hsame : patch? { token := some "t" } (singleContext none) = some (singleContext none) := rfl
  rw [hsame] at hafter
  cases hafter
  have hnone : userBody? { token := some "t" } (singleContext none) = none := rfl
  rw [hnone] at hbody
  cases hbody

end PortTunnel.Cluster
