import PortTunnel.Cluster.Reading
import PortTunnel.Cluster.Toolkit

/-!
# Where the document of a tunnel comes from

Files that are listed are merged in the order of the list, and what is said first counts. A file
that cannot be read or merged ends the reading, whatever comes behind it. Only where no file is
named is the usual place looked at, and only there is a failure no document instead of an error.

* `Kubeconfig.Library.MergeLaws`: what is documented of merging two documents;
  `Kubeconfig.library_mergeLaws`.
* `Kubeconfig.Merged`: what documents amount to, one after another.
* `Cluster.Reads`: what the files of a list hold and amount to, up to one of them.
* `Cluster.Halts`: the error of a list in which a file fails; `Cluster.reads_or_halts`.
* `Cluster.LoadOutcome`: where the document of a tunnel comes from.
* `Cluster.load_first_file_wins`: it comes from there for all settings, whatever the library reads.
-/

namespace PortTunnel

open Text (TextTable)
open Machine (Files)

/-! ## Documents one after another -/

namespace Kubeconfig

/-- What a name stands for in a list: the first entry of that name. -/
def lookup? {α : Type} (name : String) (xs : List (Named α)) : Option (Named α) :=
  xs.find? (·.name = name)

theorem lookup?_isSome {α : Type} {name : String} {xs : List (Named α)} :
    (lookup? name xs).isSome ↔ ∃ e ∈ xs, e.name = name := by
  simp [lookup?]

theorem lookup?_appendNew {α : Type} (name : String) (xs ys : List (Named α)) :
    lookup? name (appendNew xs ys) = (lookup? name xs).or (lookup? name ys) := by
  rw [appendNew, lookup?, List.find?_append]
  cases hfirst : xs.find? (·.name = name) with
  | some x => rw [lookup?, hfirst, Option.some_or, Option.some_or]
  | none =>
    rw [lookup?, lookup?, hfirst, Option.none_or, Option.none_or, List.find?_filter]
    -- No entry of this name is among those that were left out.
    have hnew : ∀ y : Named α, y.name = name → xs.any (fun x => x.name = y.name) = false := by
      intro y hy
      rw [List.find?_eq_none] at hfirst
      simpa [hy] using hfirst
    congr 1
    funext y
    by_cases hy : y.name = name
    · simp [hy, ← hnew y hy]
    · simp [hy]

/-- The lists of documents as one: a name stands for what the first document makes of it. -/
structure Prevails {α : Type} (list : Kubeconfig → List (Named α)) (ks : List Kubeconfig)
    (k : Kubeconfig) : Prop where
  /-- A name stands for the entry of the first document that has it. -/
  first : ∀ name, lookup? name (list k) = ks.findSome? fun d => lookup? name (list d)
  /-- No name is lost. -/
  whole : ∀ d ∈ ks, ∀ e ∈ list d, ∃ e' ∈ list k, e'.name = e.name

theorem prevails_single {α : Type} (list : Kubeconfig → List (Named α)) (k : Kubeconfig) :
    Prevails list [k] k where
  first name := by rw [List.findSome?_singleton]
  whole d hd e he := by
    rw [List.mem_singleton] at hd
    exact ⟨e, hd ▸ he, rfl⟩

theorem Prevails.append {α : Type} {list : Kubeconfig → List (Named α)} {ks : List Kubeconfig}
    {k next k' : Kubeconfig} (h : Prevails list ks k)
    (happend : list k' = appendNew (list k) (list next)) : Prevails list (ks ++ [next]) k' := by
  have hfirst : ∀ name, lookup? name (list k') =
      (ks ++ [next]).findSome? fun d => lookup? name (list d) := by
    intro name
    rw [happend, lookup?_appendNew, h.first, List.findSome?_append, List.findSome?_singleton]
  refine ⟨hfirst, fun d hd e he => ?_⟩
  -- The name stands for something in one of the documents, so it does in what they amount to.
  rw [← lookup?_isSome, hfirst, List.findSome?_isSome_iff]
  exact ⟨d, hd, lookup?_isSome.mpr ⟨e, he, rfl⟩⟩

/-- What documents amount to, one after another: whatever is said first counts. -/
structure Merged (ks : List Kubeconfig) (k : Kubeconfig) : Prop where
  clusters : Prevails (·.clusters) ks k
  users : Prevails (·.users) ks k
  contexts : Prevails (·.contexts) ks k
  current : k.currentContext = ks.findSome? (·.currentContext)
  kind : k.kind = ks.findSome? (·.kind)
  apiVersion : k.apiVersion = ks.findSome? (·.apiVersion)

theorem merged_single (k : Kubeconfig) : Merged [k] k where
  clusters := prevails_single _ k
  users := prevails_single _ k
  contexts := prevails_single _ k
  current := by rw [List.findSome?_singleton]
  kind := by rw [List.findSome?_singleton]
  apiVersion := by rw [List.findSome?_singleton]

/-- What is documented of merging: the second document adds what the first one does not say. -/
structure Library.MergeLaws (lib : Library) : Prop where
  kind : ∀ x y k, lib.merge x y = .ok k → k.kind = (x.kind <|> y.kind)
  apiVersion : ∀ x y k, lib.merge x y = .ok k → k.apiVersion = (x.apiVersion <|> y.apiVersion)
  current : ∀ x y k, lib.merge x y = .ok k →
    k.currentContext = (x.currentContext <|> y.currentContext)
  clusters : ∀ x y k, lib.merge x y = .ok k → k.clusters = appendNew x.clusters y.clusters
  users : ∀ x y k, lib.merge x y = .ok k → k.users = appendNew x.users y.users
  contexts : ∀ x y k, lib.merge x y = .ok k → k.contexts = appendNew x.contexts y.contexts
  /-- Documents of different kinds are not merged. -/
  kinds : ∀ x y a b, x.kind = some a → y.kind = some b → a ≠ b →
    ∃ text, lib.merge x y = .error text
  /-- Documents of different versions are not merged. -/
  versions : ∀ x y a b, x.apiVersion = some a → y.apiVersion = some b → a ≠ b →
    ∃ text, lib.merge x y = .error text

theorem Merged.merge {lib : Library} {ks : List Kubeconfig} {k next k' : Kubeconfig}
    (h : Merged ks k) (hlaws : lib.MergeLaws) (hmerge : lib.merge k next = .ok k') :
    Merged (ks ++ [next]) k' where
  clusters := h.clusters.append (hlaws.clusters k next k' hmerge)
  users := h.users.append (hlaws.users k next k' hmerge)
  contexts := h.contexts.append (hlaws.contexts k next k' hmerge)
  current := by simp [hlaws.current k next k' hmerge, h.current, List.findSome?_append]
  kind := by simp [hlaws.kind k next k' hmerge, h.kind, List.findSome?_append]
  apiVersion := by simp [hlaws.apiVersion k next k' hmerge, h.apiVersion, List.findSome?_append]

/-- A document that says something else than the first of some documents that says anything. -/
def Clash (ks : List Kubeconfig) (next : Kubeconfig) : Prop :=
  (∃ a b, ks.findSome? (·.kind) = some a ∧ next.kind = some b ∧ a ≠ b) ∨
    ∃ a b, ks.findSome? (·.apiVersion) = some a ∧ next.apiVersion = some b ∧ a ≠ b

theorem Merged.merge_of_clash {lib : Library} {ks : List Kubeconfig} {k next : Kubeconfig}
    (h : Merged ks k) (hlaws : lib.MergeLaws) (hclash : Clash ks next) :
    ∃ text, lib.merge k next = .error text := by
  obtain ⟨a, b, ha, hb, hne⟩ | ⟨a, b, ha, hb, hne⟩ := hclash
  · exact hlaws.kinds k next a b (h.kind.trans ha) hb hne
  · exact hlaws.versions k next a b (h.apiVersion.trans ha) hb hne

/-! ## The library of a machine -/

theorem merge_eq_ok {x y k : Kubeconfig} (h : merge x y = .ok k) :
    k = {
      preferences := x.preferences <|> y.preferences
      clusters := appendNew x.clusters y.clusters
      users := appendNew x.users y.users
      contexts := appendNew x.contexts y.contexts
      currentContext := x.currentContext <|> y.currentContext
      extensions := x.extensions <|> y.extensions
      kind := x.kind <|> y.kind
      apiVersion := x.apiVersion <|> y.apiVersion } := by
  rw [merge] at h
  split at h
  · cases h
  · split at h
    · cases h
    · exact (Except.ok.inj h).symm

theorem disagree_of_ne {a b : String} {x y : Option String} (hx : x = some a) (hy : y = some b)
    (hne : a ≠ b) : disagree x y := by
  simp [disagree, hx, hy, hne]

theorem library_mergeLaws (fs : Files) (env : TextTable) : (library fs env).MergeLaws := by
  have hok : ∀ x y k, (library fs env).merge x y = .ok k → merge x y = .ok k := by
    intro x y k h
    change (merge x y).mapError _ = .ok k at h
    cases hmerge : merge x y with
    | error m =>
      rw [hmerge] at h
      cases h
    | ok k' =>
      rw [hmerge] at h
      exact congrArg Except.ok (Except.ok.inj h)
  have herror : ∀ x y m, merge x y = .error m →
      ∃ text, (library fs env).merge x y = .error text := by
    intro x y m h
    refine ⟨m.message, ?_⟩
    change (merge x y).mapError _ = _
    rw [h]
    rfl
  constructor
  case kind => exact fun x y k h => by rw [merge_eq_ok (hok x y k h)]
  case apiVersion => exact fun x y k h => by rw [merge_eq_ok (hok x y k h)]
  case current => exact fun x y k h => by rw [merge_eq_ok (hok x y k h)]
  case clusters => exact fun x y k h => by rw [merge_eq_ok (hok x y k h)]
  case users => exact fun x y k h => by rw [merge_eq_ok (hok x y k h)]
  case contexts => exact fun x y k h => by rw [merge_eq_ok (hok x y k h)]
  case kinds =>
    intro x y a b hx hy hne
    refine herror x y .kind ?_
    rw [merge, if_pos (disagree_of_ne hx hy hne)]
  case versions =>
    intro x y a b hx hy hne
    by_cases hkind : disagree x.kind y.kind
    · refine herror x y .kind ?_
      rw [merge, if_pos hkind]
    · refine herror x y .apiVersion ?_
      rw [merge, if_neg hkind, if_pos (disagree_of_ne hx hy hne)]

end Kubeconfig

/-! ## Files one after another -/

namespace Cluster

open Kubeconfig (Library Merged Clash)

variable {lib : Library} {a : Access} {paths : List String} {ks : List Kubeconfig}
  {acc : Option Kubeconfig}

/-- What the files of a list hold and what they amount to, where each of them can be read and merged
into those before it. -/
inductive Reads (lib : Library) : List String → List Kubeconfig → Option Kubeconfig → Prop where
  | start : Reads lib [] [] none
  | more {paths : List String} {ks : List Kubeconfig} {merged : Option Kubeconfig} {path : String}
      {next k : Kubeconfig} (before : Reads lib paths ks merged)
      (read : lib.readFrom path = .ok next) (joined : lib.join merged next = .ok k) :
      Reads lib (paths ++ [path]) (ks ++ [next]) (some k)

/-- The error of a list in which a file cannot be read, or not be merged into those before it. Of
the files behind it nothing is said. -/
inductive Halts (lib : Library) : List String → Error → Prop where
  | unread {paths : List String} {ks : List Kubeconfig} {merged : Option Kubeconfig}
      {path text : String} (after : List String) (before : Reads lib paths ks merged)
      (unread : lib.readFrom path = .error text) :
      Halts lib (paths ++ path :: after) (.config s!"cannot read kubeconfig {path}: {text}")
  | unmerged {paths : List String} {ks : List Kubeconfig} {merged : Option Kubeconfig}
      {path text : String} {next : Kubeconfig} (after : List String)
      (before : Reads lib paths ks merged) (read : lib.readFrom path = .ok next)
      (unmerged : lib.join merged next = .error text) :
      Halts lib (paths ++ path :: after) (.config s!"cannot merge {path}: {text}")

theorem Halts.append {e : Error} (h : Halts lib paths e) (more : List String) :
    Halts lib (paths ++ more) e := by
  cases h with
  | unread after before unread =>
    rw [List.append_assoc, List.cons_append]
    exact .unread (after ++ more) before unread
  | unmerged after before read unmerged =>
    rw [List.append_assoc, List.cons_append]
    exact .unmerged (after ++ more) before read unmerged

theorem Halts.ne_nil {e : Error} (h : Halts lib paths e) : paths ≠ [] := by
  cases h <;> simp

theorem Reads.isSome_iff (h : Reads lib paths ks acc) : acc.isSome ↔ paths ≠ [] := by
  cases h <;> simp

theorem Reads.eq_nil (h : Reads lib paths ks none) : ks = [] := by
  cases h
  rfl

/-- A list can be read to its end, or it halts. -/
theorem reads_or_halts (lib : Library) (paths : List String) :
    (∃ ks merged, Reads lib paths ks merged) ∨ ∃ e, Halts lib paths e := by
  induction h : paths.reverse generalizing paths with
  | nil =>
    cases List.reverse_eq_nil_iff.mp h
    exact .inl ⟨[], none, .start⟩
  | cons path before ih =>
    obtain rfl : paths = before.reverse ++ [path] := by
      rw [← List.reverse_cons, ← h, List.reverse_reverse]
    obtain ⟨ks, merged, hreads⟩ | ⟨e, hhalts⟩ := ih before.reverse (List.reverse_reverse before)
    · cases hread : lib.readFrom path with
      | error text => exact .inr ⟨_, .unread [] hreads hread⟩
      | ok next =>
        cases hjoin : lib.join merged next with
        | error text => exact .inr ⟨_, .unmerged [] hreads hread hjoin⟩
        | ok k => exact .inl ⟨_, _, hreads.more hread hjoin⟩
    · exact .inr ⟨e, hhalts.append [path]⟩

/-- What the files amount to says what they say, one after another. -/
theorem Reads.merged (h : Reads lib paths ks acc) (hlaws : lib.MergeLaws) :
    ∀ k ∈ acc, Merged ks k := by
  induction h with
  | start => exact nofun
  | @more _ ks acc _ next k before _ joined ih =>
    rintro _ ⟨⟩
    cases acc with
    | none =>
      cases joined
      rw [before.eq_nil]
      exact Kubeconfig.merged_single next
    | some merged => exact (ih merged rfl).merge hlaws joined

/-- Where a document clashes with those before it, merging fails. -/
theorem Reads.join_of_clash {next : Kubeconfig} (h : Reads lib paths ks acc)
    (hlaws : lib.MergeLaws) (hclash : Clash ks next) : ∃ text, lib.join acc next = .error text := by
  cases acc with
  | none =>
    rw [h.eq_nil] at hclash
    obtain ⟨_, _, hnone, -⟩ | ⟨_, _, hnone, -⟩ := hclash <;> cases hnone
  | some merged => exact (h.merged hlaws merged rfl).merge_of_clash hlaws hclash

theorem readFiles_append (before : Option Kubeconfig) (more : List String) :
    readFiles lib before (paths ++ more) =
      readFiles lib before paths >>= fun merged => readFiles lib merged more := by
  induction paths generalizing before with
  | nil => rfl
  | cons path rest ih =>
    rw [List.cons_append, readFiles, readFiles]
    cases readFile lib path with
    | error e => rfl
    | ok next =>
      simp only [bind, Except.bind]
      cases lib.join before next with
      | error text => rfl
      | ok k => exact ih (some k)

theorem readFile_ok {path : String} {k : Kubeconfig} (h : lib.readFrom path = .ok k) :
    readFile lib path = .ok k := by
  rw [readFile, h]
  rfl

theorem readFile_error {path text : String} (h : lib.readFrom path = .error text) :
    readFile lib path = .error (.config s!"cannot read kubeconfig {path}: {text}") := by
  rw [readFile, h]
  rfl

theorem Reads.readFiles (h : Reads lib paths ks acc) : readFiles lib none paths = .ok acc := by
  induction h with
  | start => rfl
  | more before read joined ih =>
    rw [readFiles_append, ih]
    simp only [bind, Except.bind, Cluster.readFiles, readFile_ok read, joined]
    rfl

theorem Halts.readFiles {e : Error} (h : Halts lib paths e) :
    readFiles lib none paths = .error e := by
  cases h with
  | unread after before unread =>
    rw [readFiles_append, before.readFiles]
    simp only [bind, Except.bind, Cluster.readFiles, readFile_error unread]
  | unmerged after before read unmerged =>
    rw [readFiles_append, before.readFiles]
    simp only [bind, Except.bind, Cluster.readFiles, readFile_ok read, unmerged]
    rfl

theorem readFiles_congr {other : Library} (hmerge : other.merge = lib.merge)
    (h : ∀ path ∈ paths, other.readFrom path = lib.readFrom path) (before : Option Kubeconfig) :
    readFiles other before paths = readFiles lib before paths := by
  induction paths generalizing before with
  | nil => rfl
  | cons path rest ih =>
    have hpath : readFile other path = readFile lib path := by
      rw [readFile, readFile, h path List.mem_cons_self]
    have hjoin : other.join before = lib.join before := by
      cases before with
      | none => rfl
      | some before => exact congrFun hmerge before
    rw [Cluster.readFiles, Cluster.readFiles, hpath, hjoin]
    refine congrArg (readFile lib path >>= ·) (funext fun next => ?_)
    cases lib.join before next with
    | error text => rfl
    | ok k => exact ih (fun p hp => h p (List.mem_cons_of_mem path hp)) (some k)

/-! ## The document of a tunnel -/

/-- The files that the settings list; a list that is empty is as good as none. -/
def listed (a : Access) : List String := a.paths.getD []

theorem load_listed (h : listed a ≠ []) : load lib a = readFiles lib none (listed a) := by
  unfold listed at h ⊢
  cases hpaths : a.paths with
  | none => simp [hpaths] at h
  | some paths =>
    cases paths with
    | nil => simp [hpaths] at h
    | cons path rest => simp only [load, hpaths, Option.getD_some]

theorem load_unlisted (h : listed a = []) :
    load lib a = match a.path with
      | some path => (readFile lib path).map some
      | none => .ok lib.read.toOption := by
  unfold listed at h
  cases hpaths : a.paths with
  | none => cases hpath : a.path <;> simp only [load, hpaths, hpath]
  | some paths =>
    rw [hpaths, Option.getD_some] at h
    cases h
    cases hpath : a.path <;> simp only [load, hpaths, hpath]

theorem load_single {path : String} (h : listed a = []) (hpath : a.path = some path) :
    load lib a = match lib.readFrom path with
      | .ok k => .ok (some k)
      | .error text => .error (.config s!"cannot read kubeconfig {path}: {text}") := by
  rw [load_unlisted h, hpath]
  dsimp only
  cases hread : lib.readFrom path with
  | ok k =>
    rw [readFile_ok hread]
    rfl
  | error text =>
    rw [readFile_error hread]
    rfl

/-- A list that is not empty comes to a document or to an error. -/
theorem load_listed_ne_none (h : listed a ≠ []) : load lib a ≠ .ok none := by
  rw [load_listed h]
  obtain ⟨ks, merged, hreads⟩ | ⟨e, hhalts⟩ := reads_or_halts lib (listed a)
  · rw [hreads.readFiles]
    rintro hnone
    have hsome := hreads.isSome_iff.mpr h
    rw [Except.ok.inj hnone] at hsome
    cases hsome
  · rw [hhalts.readFiles]
    nofun

theorem load_eq_none_iff : load lib a = .ok none ↔
    listed a = [] ∧ a.path = none ∧ ∃ text, lib.read = .error text := by
  by_cases hnone : listed a = []
  · cases hpath : a.path with
    | some path =>
      rw [load_single hnone hpath]
      cases lib.readFrom path <;> simp
    | none =>
      rw [load_unlisted hnone, hpath]
      cases lib.read <;> simp [hnone, Except.toOption]
  · exact iff_of_false (load_listed_ne_none hnone) fun h => hnone h.1

/-- Where the document of a tunnel comes from. -/
structure LoadOutcome (lib : Library) (a : Access) : Prop where
  /-- Files that are listed count if all of them go together, and the first one counts most. -/
  merged : ∀ ks k, Reads lib (listed a) ks (some k) → load lib a = .ok (some k) ∧ Merged ks k
  /-- The first file of a list that cannot be read or merged is named. -/
  halted : ∀ e, Halts lib (listed a) e → load lib a = .error e
  /-- All files of a list go together, or there is a first one that does not. -/
  decided : listed a ≠ [] →
    (∃ ks k, Reads lib (listed a) ks (some k)) ∨ ∃ e, Halts lib (listed a) e
  /-- A file of another kind or version than those before it does not go with them. -/
  clashing : ∀ before (path : String) after ks acc next, listed a = before ++ path :: after →
    Reads lib before ks acc → lib.readFrom path = .ok next → Clash ks next →
      ∃ text : String, load lib a = .error (.config s!"cannot merge {path}: {text}")
  /-- Next to a list, nothing else has a part in it, be it a single file or the usual place. -/
  alone : listed a ≠ [] → ∀ (other : Library) a', listed a' = listed a → other.merge = lib.merge →
    (∀ path ∈ listed a, other.readFrom path = lib.readFrom path) → load other a' = load lib a
  /-- Without a list, a single file decides. -/
  single : listed a = [] → ∀ path, a.path = some path →
    load lib a = match lib.readFrom path with
      | .ok k => .ok (some k)
      | .error text => .error (.config s!"cannot read kubeconfig {path}: {text}")
  /-- Without any file, the usual place decides, where whatever fails counts as no document. -/
  usual : listed a = [] → a.path = none → load lib a = .ok lib.read.toOption
  /-- Next to any file, the usual place has no part in it. -/
  named : listed a ≠ [] ∨ a.path ≠ none → ∀ read, load { lib with read := read } a = load lib a
  /-- There is no document only where no file is named and the usual place has none. -/
  unsaid : load lib a = .ok none ↔
    listed a = [] ∧ a.path = none ∧ ∃ text, lib.read = .error text
  /-- A file that is named and fails is the end of the connection, whatever the library makes of
  documents. -/
  reported : ∀ {Config Client : Type} (kit : Toolkit Config Client), kit.toLibrary = lib →
    ∀ e, load lib a = .error e → configure kit a = .error e ∧ connect kit a = .error e

theorem load_first_file_wins (hlaws : lib.MergeLaws) (a : Access) : LoadOutcome lib a where
  merged ks k hreads := by
    refine ⟨?_, hreads.merged hlaws k rfl⟩
    rw [load_listed (hreads.isSome_iff.mp rfl), hreads.readFiles]
  halted e hhalts := by rw [load_listed hhalts.ne_nil, hhalts.readFiles]
  decided hlisted := by
    obtain ⟨ks, merged, hreads⟩ | hhalts := reads_or_halts lib (listed a)
    · obtain ⟨k, rfl⟩ := Option.isSome_iff_exists.mp (hreads.isSome_iff.mpr hlisted)
      exact .inl ⟨ks, k, hreads⟩
    · exact .inr hhalts
  clashing before path after ks acc next hlist hreads hread hclash := by
    obtain ⟨text, hjoin⟩ := hreads.join_of_clash hlaws hclash
    have hhalts : Halts lib (listed a) (.config s!"cannot merge {path}: {text}") :=
      hlist ▸ .unmerged after hreads hread hjoin
    exact ⟨text, by rw [load_listed hhalts.ne_nil, hhalts.readFiles]⟩
  alone hlisted other a' hsame hmerge hread := by
    rw [load_listed hlisted, load_listed (hsame ▸ hlisted), hsame, readFiles_congr hmerge hread]
  single hnone path hpath := load_single hnone hpath
  usual hnone hpath := by rw [load_unlisted hnone, hpath]
  named hnamed read := by
    let other : Library := { lib with read := read }
    by_cases hnone : listed a = []
    · obtain ⟨path, hpath⟩ := Option.ne_none_iff_exists'.mp (hnamed.resolve_left (absurd hnone))
      rw [load_single hnone hpath, load_single hnone hpath]
    · have hmerge : other.merge = lib.merge := rfl
      rw [load_listed hnone, load_listed hnone]
      exact readFiles_congr hmerge (fun _ _ => rfl) none
  unsaid := load_eq_none_iff
  reported kit hkit e herror := by
    have hconfigure : configure kit a = .error e := by
      rw [configure, hkit, herror]
      rfl
    refine ⟨hconfigure, ?_⟩
    rw [connect, hconfigure]
    rfl

/-- A document that has one cluster under a name, and says which context is the current one if it
does. -/
def sketch (cluster server : String) (current : Option String) : Kubeconfig where
  clusters := [⟨cluster, some ⟨some server, none, none, none, none, none, none, none⟩⟩]
  currentContext := current
  kind := some "Config"

/-- A machine with two files, the second of which speaks of the cluster of the first as well. -/
def shelf : Library where
  readFrom
    | "base" => .ok (sketch "dev" "https://dev-1" none)
    | "team" => .ok (sketch "dev" "https://dev-2" (some "team"))
    | _ => .error "No such file or directory (os error 2)"
  merge := (Kubeconfig.library {} .empty).merge
  read := .error "No such file or directory (os error 2)"

theorem load_first_file_wins_shelf :
    shelf.MergeLaws ∧
    LoadOutcome shelf { paths := some ["base", "team"], path := some "missing" } ∧
    load shelf { paths := some ["base", "team"], path := some "missing" } =
      .ok (some (sketch "dev" "https://dev-1" (some "team"))) := by
  have hlaws : shelf.MergeLaws := by
    have hlibrary := Kubeconfig.library_mergeLaws {} .empty
    exact ⟨hlibrary.kind, hlibrary.apiVersion, hlibrary.current, hlibrary.clusters,
      hlibrary.users, hlibrary.contexts, hlibrary.kinds, hlibrary.versions⟩
  exact ⟨hlaws, load_first_file_wins hlaws _, rfl⟩

/-- The first file that fails is named, and no other is read in its place. -/
example : load shelf { paths := some ["base", "missing", "team"], path := some "team" } =
    .error (.config "cannot read kubeconfig missing: No such file or directory (os error 2)") := by
  rfl

end Cluster

end PortTunnel
