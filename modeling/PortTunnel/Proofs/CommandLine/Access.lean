import Mathlib.Data.List.TakeWhile
import PortTunnel.CommandLine.Run
import PortTunnel.Proofs.Cluster.Loading
import PortTunnel.Proofs.Text.Split
import PortTunnel.Proofs.Text.Table

/-!
# What the arguments about a cluster mean

Variables of a login program are texts with a sign of equality, the first of which is the one
between name and value; the last text about a variable counts. Paths are the segments of a text
between colons, and those that are empty are no paths.

* `Gives`: what a text says of a variable; `LastGives`, `FirstBare`: what many texts come to.
* `addPairs_eq_error_iff`, `get?_addPairs`: the table of texts, or the text that is refused.
* `segments_splitList`: the paths in a text.
* `AccessReading`: what arguments come to; `toAccess_exact`: they do so whatever is given.
-/

namespace PortTunnel.CommandLine.AccessArguments

open Text (Segments TextTable)

/-! ## Variables -/

/-- A text gives a value to a variable. There is no sign of equality before the one between them. -/
structure Gives (text name value : String) : Prop where
  free : '=' ∉ name.toList
  joined : text = name ++ "=" ++ value

/-- Of all texts about a variable, the last one gives it this value. -/
def LastGives (texts : List String) (name value : String) : Prop :=
  ∃ before text after, texts = before ++ text :: after ∧ Gives text name value ∧
    ∀ later ∈ after, ∀ other, ¬ Gives later name other

/-- Of all texts without a sign of equality, this one is the first. -/
def FirstBare (texts : List String) (text : String) : Prop :=
  ∃ before after, texts = before ++ text :: after ∧ '=' ∉ text.toList ∧
    ∀ earlier ∈ before, '=' ∈ earlier.toList

variable {s name value : String} {rest texts : List String}

theorem Gives.toList (h : Gives s name value) : s.toList = name.toList ++ '=' :: value.toList := by
  rw [h.joined]
  simp

theorem exists_gives_iff : (∃ name value, Gives s name value) ↔ '=' ∈ s.toList := by
  constructor
  · rintro ⟨name, value, h⟩
    rw [h.toList]
    simp
  · intro h
    obtain ⟨name, value, hsplit, hfree⟩ := List.eq_append_cons_of_mem h
    refine ⟨.ofList name, .ofList value, by simpa using hfree, ?_⟩
    rw [← String.toList_inj, hsplit]
    simp

theorem pair?_of_not_mem (h : '=' ∉ s.toList) : pair? s = none := by
  have hnone : s.toList.dropWhile (· ≠ '=') = [] := by
    rw [List.dropWhile_eq_nil_iff]
    intro c hc
    have hne : c ≠ '=' := fun heq => h (heq ▸ hc)
    simpa using hne
  rw [pair?, hnone]

theorem pair?_of_gives (h : Gives s name value) : pair? s = some (name, value) := by
  have hname : ∀ c ∈ name.toList, (decide (c ≠ '=')) = true := by
    intro c hc
    have hne : c ≠ '=' := fun heq => h.free (heq ▸ hc)
    simpa using hne
  have hdrop : s.toList.dropWhile (· ≠ '=') = '=' :: value.toList := by
    rw [h.toList, List.dropWhile_append_of_pos hname]
    rfl
  have htake : s.toList.takeWhile (· ≠ '=') = name.toList := by
    rw [h.toList, List.takeWhile_append_of_pos hname]
    simp
  rw [pair?, hdrop, htake]
  simp

theorem pair?_eq_some_iff : pair? s = some (name, value) ↔ Gives s name value := by
  refine ⟨fun h => ?_, pair?_of_gives⟩
  by_cases hmem : '=' ∈ s.toList
  · obtain ⟨name', value', hgives⟩ := exists_gives_iff.mpr hmem
    rw [pair?_of_gives hgives] at h
    cases h
    exact hgives
  · rw [pair?_of_not_mem hmem] at h
    cases h

/-! ## Texts one after another -/

theorem firstBare_cons {text : String} : FirstBare (s :: rest) text ↔
    ('=' ∉ s.toList ∧ text = s) ∨ '=' ∈ s.toList ∧ FirstBare rest text := by
  constructor
  · rintro ⟨before, after, hsplit, hbare, hearlier⟩
    cases before with
    | nil =>
      obtain ⟨rfl, -⟩ := List.cons.inj hsplit
      exact .inl ⟨hbare, rfl⟩
    | cons first before =>
      obtain ⟨rfl, rfl⟩ := List.cons.inj hsplit
      exact .inr ⟨hearlier s List.mem_cons_self, before, after, rfl, hbare,
        fun earlier h => hearlier earlier (List.mem_cons_of_mem _ h)⟩
  · rintro (⟨hbare, rfl⟩ | ⟨hmem, before, after, rfl, hbare, hearlier⟩)
    · exact ⟨[], rest, rfl, hbare, nofun⟩
    · exact ⟨s :: before, after, rfl, hbare, List.forall_mem_cons.mpr ⟨hmem, hearlier⟩⟩

/-- Some text is the first of those without a sign, if there are any. -/
theorem exists_firstBare_iff : (∃ text, FirstBare texts text) ↔ ∃ s ∈ texts, '=' ∉ s.toList := by
  induction texts with
  | nil =>
    refine iff_of_false ?_ (by simp)
    rintro ⟨text, before, after, hsplit, -⟩
    simp at hsplit
  | cons s rest ih =>
    simp only [firstBare_cons, List.exists_mem_cons_iff, ← ih]
    by_cases hmem : '=' ∈ s.toList
    · simp [hmem]
    · simp [hmem]

theorem lastGives_cons : LastGives (s :: rest) name value ↔ LastGives rest name value ∨
    Gives s name value ∧ ∀ later ∈ rest, ∀ other, ¬ Gives later name other := by
  constructor
  · rintro ⟨before, text, after, hsplit, hgives, hlater⟩
    cases before with
    | nil =>
      obtain ⟨rfl, rfl⟩ := List.cons.inj hsplit
      exact .inr ⟨hgives, hlater⟩
    | cons first before =>
      obtain ⟨rfl, rfl⟩ := List.cons.inj hsplit
      exact .inl ⟨before, text, after, rfl, hgives, hlater⟩
  · rintro (⟨before, text, after, rfl, hgives, hlater⟩ | ⟨hgives, hlater⟩)
    · exact ⟨s :: before, text, after, rfl, hgives, hlater⟩
    · exact ⟨[], s, rest, rfl, hgives, hlater⟩

/-- Some text is the last of those about a variable, if there are any. -/
theorem exists_lastGives_iff :
    (∃ value, LastGives texts name value) ↔ ∃ s ∈ texts, ∃ value, Gives s name value := by
  induction texts with
  | nil =>
    refine iff_of_false ?_ (by simp)
    rintro ⟨value, before, text, after, hsplit, -⟩
    simp at hsplit
  | cons s rest ih =>
    simp only [lastGives_cons, List.exists_mem_cons_iff, exists_or, ih]
    by_cases hrest : ∃ later ∈ rest, ∃ other, Gives later name other
    · simp [hrest]
    · have hnone : ∀ later ∈ rest, ∀ other, ¬ Gives later name other := by
        simpa using hrest
      rw [or_iff_right hrest, or_iff_left hrest]
      exact exists_congr fun value => and_iff_left hnone

theorem addPairs_eq_error_iff {t : TextTable} {m : Mistake} :
    addPairs t texts = .error m ↔ ∃ text, FirstBare texts text ∧ m = .variable text := by
  induction texts generalizing t with
  | nil =>
    refine iff_of_false (by simp [addPairs]) ?_
    rintro ⟨text, ⟨before, after, hsplit, -⟩, -⟩
    simp at hsplit
  | cons s rest ih =>
    rw [addPairs]
    by_cases hmem : '=' ∈ s.toList
    · obtain ⟨name, value, hgives⟩ := exists_gives_iff.mpr hmem
      rw [pair?_of_gives hgives]
      simpa [firstBare_cons, hmem] using ih
    · rw [pair?_of_not_mem hmem]
      simp [firstBare_cons, hmem, eq_comm]

/-- What the last text about a variable gives stands in the table; without one, nothing changes. -/
theorem get?_addPairs {t table : TextTable} (h : addPairs t texts = .ok table) :
    table.get? name = some value ↔ LastGives texts name value ∨
      (∀ s ∈ texts, ∀ other, ¬ Gives s name other) ∧ t.get? name = some value := by
  induction texts generalizing t with
  | nil =>
    cases h
    have hnone : ¬ LastGives [] name value := by
      rintro ⟨before, text, after, hsplit, -⟩
      simp at hsplit
    simp [hnone]
  | cons s rest ih =>
    rw [addPairs] at h
    cases hpair : pair? s with
    | none =>
      rw [hpair] at h
      cases h
    | some pair =>
      obtain ⟨name', value'⟩ := pair
      rw [hpair] at h
      have hgives : ∀ other, Gives s name other ↔ name' = name ∧ value' = other := by
        intro other
        rw [← pair?_eq_some_iff, hpair]
        simp
      rw [ih h, lastGives_cons, List.forall_mem_cons, hgives]
      by_cases hname : name' = name
      · subst hname
        rw [TextTable.get?_insert_self]
        simp [hgives, and_comm]
      · rw [TextTable.get?_insert_of_ne hname]
        simp [hgives, hname]

/-! ## The login program -/

theorem table_cons : table (s :: rest) = (addPairs .empty (s :: rest)).map some := by
  rw [table]
  simp

theorem table_eq_error_iff {m : Mistake} :
    table texts = .error m ↔ ∃ text, FirstBare texts text ∧ m = .variable text := by
  cases texts with
  | nil =>
    refine iff_of_false (by simp [table]) ?_
    rintro ⟨text, ⟨before, after, hsplit, -⟩, -⟩
    simp at hsplit
  | cons s rest =>
    have hpairs := @addPairs_eq_error_iff (s :: rest) .empty m
    rw [← hpairs, table_cons]
    cases addPairs .empty (s :: rest) <;> simp [Except.map]

/-- There is a table if and only if there are texts, and it has what the last of them give. -/
theorem table_ok {env : Option TextTable} (h : table texts = .ok env) :
    (env = none ↔ texts = []) ∧ ∀ t, env = some t → ∀ name value,
      t.get? name = some value ↔ LastGives texts name value := by
  cases texts with
  | nil =>
    cases h
    simp
  | cons s rest =>
    rw [table_cons] at h
    cases hpairs : addPairs .empty (s :: rest) with
    | error m =>
      rw [hpairs] at h
      cases h
    | ok t =>
      rw [hpairs] at h
      cases h
      refine ⟨by simp, fun t' ht' name value => ?_⟩
      cases ht'
      rw [get?_addPairs hpairs]
      simp [TextTable.get?, TextTable.empty]

variable {a : AccessArguments} {access : Cluster.Access}

theorem login_of_none (h : a.execCommand = none) : a.login = .ok none := by
  rw [login, h]

theorem login_of_some {command : String} (h : a.execCommand = some command) :
    a.login = (table a.execEnv).map fun env => some {
      apiVersion := a.execApiVersion.getD defaultApiVersion
      command := command
      env := env
      args := if a.execArgs = [] then none else some a.execArgs } := by
  rw [login, h]
  cases table a.execEnv <;> rfl

theorem toAccess_eq_error_iff {m : Mistake} : a.toAccess = .error m ↔
    a.execCommand ≠ none ∧ ∃ text, FirstBare a.execEnv text ∧ m = .variable text := by
  have hlogin : a.toAccess = .error m ↔ a.login = .error m := by
    rw [toAccess]
    cases a.login <;> simp [bind, Except.bind]
  rw [hlogin]
  cases hcommand : a.execCommand with
  | none => simp [login_of_none hcommand]
  | some command =>
    rw [login_of_some hcommand, ← table_eq_error_iff]
    cases table a.execEnv <;> simp [Except.map]

/-- What is given of all settings but the login program stands there as it is given. -/
theorem toAccess_ok (h : a.toAccess = .ok access) : a.login = .ok access.exec ∧
    access = {
      host := a.host, username := a.username, password := a.password, insecure := a.insecure
      tlsServerName := a.tlsServerName, clientCertificate := a.clientCertificate
      clientKey := a.clientKey, authority := a.authority
      paths := a.paths.map Machine.Path.splitList, path := a.path, context := a.context
      contextUser := a.contextUser, contextCluster := a.contextCluster, token := a.token
      proxyUrl := a.proxyUrl, exec := access.exec } := by
  rw [toAccess] at h
  cases hlogin : a.login with
  | error m =>
    rw [hlogin] at h
    cases h
  | ok login =>
    rw [hlogin] at h
    cases h
    exact ⟨rfl, rfl⟩

theorem exec_of_ok (h : a.toAccess = .ok access) : ∀ command, a.execCommand = some command →
    ∃ env, table a.execEnv = .ok env ∧ access.exec = some {
      apiVersion := a.execApiVersion.getD defaultApiVersion
      command := command
      env := env
      args := if a.execArgs = [] then none else some a.execArgs } := by
  intro command hcommand
  have hlogin := (toAccess_ok h).1
  rw [login_of_some hcommand] at hlogin
  cases htable : table a.execEnv with
  | error m =>
    rw [htable] at hlogin
    cases hlogin
  | ok env =>
    rw [htable] at hlogin
    exact ⟨env, rfl, (Except.ok.inj hlogin).symm⟩

/-! ## Paths -/

theorem segments_splitList {text : String} {segments : List String}
    (h : Segments ':' text segments) : Machine.Path.splitList text = segments.filter (· ≠ "") := by
  have hsign : String.ofList [':'] = ":" := rfl
  rw [Text.segments_iff, hsign] at h
  rw [Machine.Path.splitList, h]

/-- Without paths, it makes no difference whether a text was given in which there are none. -/
theorem load_of_blank {text : String} {segments : List String} (h : a.toAccess = .ok access)
    (hpaths : a.paths = some text) (hsegments : Segments ':' text segments)
    (hblank : ∀ s ∈ segments, s = "") : ∃ bare, { a with paths := none }.toAccess = .ok bare ∧
      ∀ lib, Cluster.load lib access = Cluster.load lib bare := by
  obtain ⟨hlogin, haccess⟩ := toAccess_ok h
  have hnone : access.paths = some [] := by
    have hfilter : segments.filter (· ≠ "") = [] := by simpa using hblank
    rw [haccess, hpaths, Option.map_some, segments_splitList hsegments, hfilter]
  refine ⟨{ access with paths := none }, ?_, fun lib => ?_⟩
  · have hsame : { a with paths := none }.login = a.login := rfl
    rw [toAccess, hsame, hlogin, haccess]
    rfl
  · rw [Cluster.load_unlisted, Cluster.load_unlisted]
    · rfl
    · rw [Cluster.listed, hnone]
      rfl

/-! ## The whole -/

/-- What arguments come to. -/
structure AccessReading (a : AccessArguments) : Prop where
  /-- Nothing is refused but variables of a login program without a sign of equality. -/
  fails : (∃ m, a.toAccess = .error m) ↔
    a.execCommand ≠ none ∧ ∃ s ∈ a.execEnv, '=' ∉ s.toList
  /-- The first variable without a sign of equality is named. -/
  named : ∀ m, a.toAccess = .error m → ∃ s, FirstBare a.execEnv s ∧ m = .variable s ∧
    m.message = "invalid --exec-env " ++ Text.Quoted.quote s ++ ", expected KEY=VALUE"
  /-- A command makes a login program, which has a table of variables if any text is given. -/
  login : ∀ access command, a.toAccess = .ok access → a.execCommand = some command →
    ∃ e, access.exec = some e ∧ e.command = command ∧
      e.apiVersion = a.execApiVersion.getD defaultApiVersion ∧
      e.args = (if a.execArgs = [] then none else some a.execArgs) ∧
      (e.env = none ↔ a.execEnv = [])
  /-- Each variable has what the last text about it gives. -/
  values : ∀ access e env, a.toAccess = .ok access → access.exec = some e → e.env = some env →
    ∀ name value, env.get? name = some value ↔ LastGives a.execEnv name value
  /-- A table has the variables that some text is about, and no others. -/
  names : ∀ access e env, a.toAccess = .ok access → access.exec = some e → e.env = some env →
    ∀ name, (∃ value, env.get? name = some value) ↔ ∃ s ∈ a.execEnv, ∃ value, Gives s name value
  /-- Without a command there is no login program, whatever is said about it. -/
  bare : a.execCommand = none → ∀ version args texts, ∃ access,
    { a with execApiVersion := version, execArgs := args, execEnv := texts }.toAccess = .ok access ∧
      access.exec = none
  /-- The paths are the segments between colons, in their order, without those that are empty. -/
  paths : ∀ access, a.toAccess = .ok access → (a.paths = none → access.paths = none) ∧
    ∀ text, a.paths = some text → ∃ segments, Segments ':' text segments ∧
      access.paths = some (segments.filter (· ≠ ""))
  /-- Where all segments are empty, the document of the tunnel is the one without paths. -/
  unlisted : ∀ access text segments, a.toAccess = .ok access → a.paths = some text →
    Segments ':' text segments → (∀ s ∈ segments, s = "") →
    ∃ bare, { a with paths := none }.toAccess = .ok bare ∧
      ∀ lib, Cluster.load lib access = Cluster.load lib bare
  /-- All other settings are the arguments of their names. -/
  others : ∀ access, a.toAccess = .ok access → { access with paths := none, exec := none } =
    ({ host := a.host, username := a.username, password := a.password, insecure := a.insecure
       tlsServerName := a.tlsServerName, clientCertificate := a.clientCertificate
       clientKey := a.clientKey, authority := a.authority, path := a.path, context := a.context
       contextUser := a.contextUser, contextCluster := a.contextCluster, token := a.token
       proxyUrl := a.proxyUrl } : Cluster.Access)

/-- A login program comes from a command, and its table from the texts. -/
theorem table_of_exec {e : Cluster.ExecLogin} (h : a.toAccess = .ok access)
    (he : access.exec = some e) : table a.execEnv = .ok e.env := by
  cases hcommand : a.execCommand with
  | none =>
    have hlogin := (toAccess_ok h).1
    rw [login_of_none hcommand, he] at hlogin
    cases hlogin
  | some command =>
    obtain ⟨env, htable, hexec⟩ := exec_of_ok h command hcommand
    rw [he] at hexec
    cases hexec
    exact htable

theorem toAccess_exact (a : AccessArguments) : AccessReading a where
  fails := by
    simp only [toAccess_eq_error_iff, ← exists_firstBare_iff]
    constructor
    · rintro ⟨_, hcommand, text, hbare, -⟩
      exact ⟨hcommand, text, hbare⟩
    · rintro ⟨hcommand, text, hbare⟩
      exact ⟨_, hcommand, text, hbare, rfl⟩
  named m h := by
    obtain ⟨-, text, hbare, rfl⟩ := toAccess_eq_error_iff.mp h
    exact ⟨text, hbare, rfl, rfl⟩
  login access command h hcommand := by
    obtain ⟨env, htable, hexec⟩ := exec_of_ok h command hcommand
    exact ⟨_, hexec, rfl, rfl, rfl, (table_ok htable).1⟩
  values access e env h he henv := (table_ok (table_of_exec h he)).2 env henv
  names access e env h he henv name := by
    rw [← exists_lastGives_iff]
    exact exists_congr fun value => (table_ok (table_of_exec h he)).2 env henv name value
  bare hcommand version args texts := by
    have hlogin : { a with
        execApiVersion := version, execArgs := args, execEnv := texts }.login = .ok none :=
      login_of_none hcommand
    rw [toAccess, hlogin]
    exact ⟨_, rfl, rfl⟩
  paths access h := by
    obtain ⟨-, haccess⟩ := toAccess_ok h
    rw [haccess]
    refine ⟨fun hnone => by rw [hnone]; rfl, fun text htext => ?_⟩
    have hsegments := Text.segments_iff.mpr (Eq.refl (text.splitOn (.ofList [':'])))
    refine ⟨_, hsegments, ?_⟩
    rw [htext, Option.map_some, segments_splitList hsegments]
  unlisted access text segments h hpaths hsegments hblank :=
    load_of_blank h hpaths hsegments hblank
  others access h := by
    rw [(toAccess_ok h).2]

end PortTunnel.CommandLine.AccessArguments
