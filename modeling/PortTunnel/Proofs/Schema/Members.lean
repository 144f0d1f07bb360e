import PortTunnel.Proofs.Json.Members
import PortTunnel.Proofs.Schema.RoundTrip

/-!
# Members in any order

The members of an object are read in the order of the text, but which of them are known, and what
they hold, decides alone what is read.

* `pairs`: the members of a tree, each with its node.
* `Mixed`: members in any order, among others whose names are not known.
* `checkMembers_iff`: a check passes exactly if each known member does and none is there twice.
* `scanLabel_mixed`, `scanLabel_inv`: the tag is found wherever it stands.
-/

namespace PortTunnel.Schema

open Json (Node Items Members Fault membersDepth)

/-! ## Members and their nodes -/

/-- The members of a tree, each with its node. -/
def pairs : Members → List (String × Node)
  | .closed _ => []
  | .broken _ _ => []
  | .member (.ok k) _ value _ rest => (k, value) :: pairs rest
  | .member (.error _) _ _ _ rest => pairs rest

variable {members : Members} {ms : List (String × Json)} {names : List String} {m : Mode}
  {field : String → Node → Except Fault Unit}

theorem names_pairs (h : members.values? = some ms) :
    (pairs members).map (·.1) = ms.map (·.1) := by
  induction ms generalizing members with
  | nil =>
    obtain ⟨stop, rfl⟩ := Members.eq_nil h
    rfl
  | cons e ms ih =>
    obtain ⟨nameAfter, value, after, rest, rfl, -, hrest⟩ := Members.eq_cons h
    rw [pairs, List.map_cons, List.map_cons, ih hrest]

theorem value_of_mem_pairs (h : members.values? = some ms) {p : String × Node}
    (hp : p ∈ pairs members) : ∃ j, (p.1, j) ∈ ms ∧ p.2.value? = some j := by
  induction ms generalizing members with
  | nil =>
    obtain ⟨stop, rfl⟩ := Members.eq_nil h
    cases hp
  | cons e ms ih =>
    obtain ⟨nameAfter, value, after, rest, rfl, hvalue, hrest⟩ := Members.eq_cons h
    rcases List.mem_cons.mp hp with rfl | hlater
    · exact ⟨e.2, List.mem_cons_self, hvalue⟩
    · obtain ⟨j, hj, hvalue⟩ := ih hrest hlater
      exact ⟨j, List.mem_cons_of_mem _ hj, hvalue⟩

theorem pair_of_mem (h : members.values? = some ms) {e : String × Json} (he : e ∈ ms) :
    ∃ node, (e.1, node) ∈ pairs members ∧ node.value? = some e.2 := by
  induction ms generalizing members with
  | nil => cases he
  | cons d ms ih =>
    obtain ⟨nameAfter, value, after, rest, rfl, hvalue, hrest⟩ := Members.eq_cons h
    rcases List.mem_cons.mp he with rfl | hlater
    · exact ⟨value, List.mem_cons_self, hvalue⟩
    · obtain ⟨node, hnode, hvalue⟩ := ih hrest hlater
      exact ⟨node, List.mem_cons_of_mem _ hnode, hvalue⟩

theorem findMember_eq_none (h : members.values? = some ms) {name : String}
    (hnone : Json.find? name ms = none) : findMember name members = none := by
  rcases findMember_of_values h name with ⟨hnode, -⟩ | ⟨node, j, -, hj, -⟩
  · exact hnode
  · rw [hnone] at hj
    cases hj

theorem findMember_eq_some (h : members.values? = some ms) {name : String} {j : Json}
    (hsome : Json.find? name ms = some j) :
    ∃ node, findMember name members = some node ∧ node.value? = some j := by
  rcases findMember_of_values h name with ⟨-, hnone⟩ | ⟨node, i, hnode, hi, hvalue⟩
  · rw [hsome] at hnone
    cases hnone
  · rw [hsome] at hi
    cases hi
    exact ⟨node, hnode, hvalue⟩

/-- The names among `ms` that are known. -/
def knownNames (names : List String) (ms : List (String × Json)) : List String :=
  (ms.map (·.1)).filter (· ∈ names)

theorem within_eq_ok {α : Type} {r : Except Fault α} {offset : Nat} {a : α} :
    m.within offset r = .ok a ↔ r = .ok a := by
  cases m with
  | buffered => rfl
  | streamed room =>
    cases r with
    | ok b => exact Iff.rfl
    | error f =>
      constructor
      · intro h
        cases h
      · intro h
        cases h

theorem checkMembers_known {seen : List String} {k : String} (hk : k ∈ names) (hseen : k ∉ seen)
    (nameAfter after : Nat) (value : Node) (rest : Members) :
    checkMembers names field m seen (.member (.ok k) nameAfter value after rest) = .ok () ↔
      field k value = .ok () ∧ checkMembers names field m (k :: seen) rest = .ok () := by
  have hwithin : m.within after (field k value) = .ok () ↔ field k value = .ok () := within_eq_ok
  rw [checkMembers]
  show (if k ∈ names then _ else _) = _ ↔ _
  rw [if_pos hk, if_neg hseen, ← hwithin]
  cases m.within after (field k value) with
  | ok _ => exact (and_iff_right rfl).symm
  | error f =>
    refine iff_of_false ?_ ?_
    · intro h
      cases h
    · rintro ⟨h, -⟩
      cases h

theorem checkMembers_again {seen : List String} {k : String} (hk : k ∈ names) (hseen : k ∈ seen)
    (nameAfter after : Nat) (value : Node) (rest : Members) :
    checkMembers names field m seen (.member (.ok k) nameAfter value after rest) ≠ .ok () := by
  rw [checkMembers]
  show (if k ∈ names then _ else _) ≠ _
  rw [if_pos hk, if_pos hseen]
  intro h
  cases h

theorem checkMembers_unknown {seen : List String} {k : String} (hk : k ∉ names)
    (nameAfter after : Nat) {value : Node} {j : Json} (hvalue : value.value? = some j)
    (rest : Members) :
    checkMembers names field m seen (.member (.ok k) nameAfter value after rest) =
      checkMembers names field m seen rest := by
  rw [checkMembers]
  show (if k ∈ names then _ else _) = _
  rw [if_neg hk, Node.skipFault?_eq_none hvalue]
  cases m <;> rfl

theorem knownNames_cons_of_mem {e : String × Json} (h : e.1 ∈ names) :
    knownNames names (e :: ms) = e.1 :: knownNames names ms := by
  simp [knownNames, h]

theorem knownNames_cons_of_not_mem {e : String × Json} (h : e.1 ∉ names) :
    knownNames names (e :: ms) = knownNames names ms := by
  simp [knownNames, h]

theorem mem_knownNames {k : String} : k ∈ knownNames names ms ↔ k ∈ ms.map (·.1) ∧ k ∈ names := by
  rw [knownNames, List.mem_filter, decide_eq_true_eq]

/-- A check passes exactly if each known member passes by itself, and none of them is there
twice. -/
theorem checkMembers_iff (h : members.values? = some ms) (seen : List String) :
    checkMembers names field m seen members = .ok () ↔
      (∀ p ∈ pairs members, p.1 ∈ names → p.1 ∉ seen ∧ field p.1 p.2 = .ok ()) ∧
        (knownNames names ms).Nodup := by
  induction ms generalizing seen members with
  | nil =>
    obtain ⟨stop, rfl⟩ := Members.eq_nil h
    simp [checkMembers, pairs, knownNames]
  | cons e ms ih =>
    obtain ⟨nameAfter, value, after, rest, rfl, hvalue, hrest⟩ := Members.eq_cons h
    have hnames : ∀ p ∈ pairs rest, p.1 ∈ ms.map (·.1) := by
      intro p hp
      rw [← names_pairs hrest]
      exact List.mem_map_of_mem hp
    rw [pairs, List.forall_mem_cons]
    by_cases hk : e.1 ∈ names
    -- That a name is new is said of the names before it on one side, and of those behind it on
    -- the other.
    · rw [knownNames_cons_of_mem hk, List.nodup_cons, mem_knownNames]
      by_cases hseen : e.1 ∈ seen
      · refine iff_of_false (checkMembers_again hk hseen _ _ _ _) ?_
        rintro ⟨⟨hfirst, -⟩, -⟩
        exact (hfirst hk).1 hseen
      · rw [checkMembers_known hk hseen, ih hrest]
        constructor
        · rintro ⟨hfield, hlater, hnodup⟩
          refine ⟨⟨fun _ => ⟨hseen, hfield⟩, fun p hp hknown => ?_⟩, ?_, hnodup⟩
          · obtain ⟨hnew, hp⟩ := hlater p hp hknown
            exact ⟨fun hold => hnew (List.mem_cons_of_mem _ hold), hp⟩
          · rintro ⟨hmem, -⟩
            rw [← names_pairs hrest] at hmem
            obtain ⟨p, hp, hname⟩ := List.mem_map.mp hmem
            exact (hlater p hp (hname ▸ hk)).1 (hname ▸ List.mem_cons_self)
        · rintro ⟨⟨hfirst, hlater⟩, hnot, hnodup⟩
          refine ⟨(hfirst hk).2, fun p hp hknown => ?_, hnodup⟩
          obtain ⟨hold, hp'⟩ := hlater p hp hknown
          refine ⟨fun hmem => ?_, hp'⟩
          rcases List.mem_cons.mp hmem with heq | hmem
          · exact hnot ⟨heq ▸ hnames p hp, hk⟩
          · exact hold hmem
    · rw [knownNames_cons_of_not_mem hk, checkMembers_unknown hk _ _ hvalue, ih hrest]
      have hfirst : e.1 ∈ names → e.1 ∉ seen ∧ field e.1 value = .ok () := fun h => absurd h hk
      exact and_congr_left fun _ => (and_iff_right hfirst).symm

/-! ## Members among others -/

/-- The members `kept` in any order, among others whose names are not known. -/
def Mixed (names : List String) (kept ms : List (String × Json)) : Prop :=
  ∃ extras, (∀ e ∈ extras, e.1 ∉ names) ∧ ms.Perm (kept ++ extras)

namespace Mixed

variable {kept : List (String × Json)} {e : String × Json}

theorem mem (h : Mixed names kept ms) (he : e ∈ kept) : e ∈ ms := by
  obtain ⟨extras, -, hperm⟩ := h
  exact hperm.mem_iff.mpr (List.mem_append_left _ he)

theorem mem_kept (h : Mixed names kept ms) (he : e ∈ ms) (hk : e.1 ∈ names) : e ∈ kept := by
  obtain ⟨extras, hextras, hperm⟩ := h
  rcases List.mem_append.mp (hperm.mem_iff.mp he) with hmem | hextra
  · exact hmem
  · exact absurd hk (hextras e hextra)

theorem nodup_knownNames (h : Mixed names kept ms) (hnodup : (kept.map (·.1)).Nodup) :
    (knownNames names ms).Nodup := by
  obtain ⟨extras, hextras, hperm⟩ := h
  have hnone : (extras.map (·.1)).filter (· ∈ names) = [] := by
    rw [List.filter_eq_nil_iff]
    intro k hk
    obtain ⟨e, he, rfl⟩ := List.mem_map.mp hk
    simpa using hextras e he
  have hknown : (knownNames names ms).Perm (knownNames names kept) := by
    have hfilter := (hperm.map (·.1)).filter (· ∈ names)
    rwa [List.map_append, List.filter_append, hnone, List.append_nil] at hfilter
  exact hknown.nodup_iff.mpr (hnodup.filter _)

theorem find?_eq (h : Mixed names kept ms) (hnodup : (kept.map (·.1)).Nodup) {k : String}
    (hk : k ∈ names) : Json.find? k ms = Json.find? k kept := by
  cases hfind : Json.find? k ms with
  | none =>
    rw [Json.find?_eq_none_iff] at hfind
    exact (Json.find?_eq_none_iff.mpr fun e he => hfind e (h.mem he)).symm
  | some j =>
    obtain ⟨e, he, rfl⟩ := Option.map_eq_some_iff.mp hfind
    have hname : e.1 = k := by simpa using List.find?_some he
    subst hname
    exact (Json.find?_of_mem hnodup (h.mem_kept (List.mem_of_find?_eq_some he) hk)).symm

/-- A member that is not known to others is one of the extras to them. -/
theorem tail (h : Mixed (e.1 :: names) (e :: kept) ms) (he : e.1 ∉ names) :
    Mixed names kept ms := by
  obtain ⟨extras, hextras, hperm⟩ := h
  refine ⟨e :: extras, ?_, hperm.trans List.perm_middle.symm⟩
  intro d hd
  rcases List.mem_cons.mp hd with rfl | hd
  · exact he
  · exact fun hmem => hextras d hd (List.mem_cons_of_mem _ hmem)

theorem checkMembers_ok (h : Mixed names kept ms) (hnodup : (kept.map (·.1)).Nodup)
    (hfield : ∀ e ∈ kept, ∀ node, node.value? = some e.2 → field e.1 node = .ok ())
    (hmembers : members.values? = some ms) : checkMembers names field m [] members = .ok () := by
  rw [checkMembers_iff hmembers]
  refine ⟨fun p hp hk => ⟨List.not_mem_nil, ?_⟩, h.nodup_knownNames hnodup⟩
  obtain ⟨j, hj, hvalue⟩ := value_of_mem_pairs hmembers hp
  exact hfield (p.1, j) (h.mem_kept hj hk) p.2 hvalue

end Mixed

/-! ## Fields -/

variable {name : String} {s : Shape} {rest : Fields} {node : Node} {x : s.Val} {xs : rest.Val}

theorem extract_required (hnode : findMember name members = some node)
    (hread : s.read m node = .ok x) (hrest : rest.extract m members = .ok xs) :
    (Fields.required name s rest).extract m members = .ok (x, xs) := by
  rw [Fields.extract, hnode, hrest]
  show (s.read m node >>= _) = _
  rw [hread]
  rfl

theorem extract_required_absent (hnone : findMember name members = none)
    (habsent : s.absent m name (membersEnd members) = .ok x)
    (hrest : rest.extract m members = .ok xs) :
    (Fields.required name s rest).extract m members = .ok (x, xs) := by
  rw [Fields.extract, hnone, hrest]
  show (s.absent m name (membersEnd members) >>= _) = _
  rw [habsent]
  rfl

theorem extract_optional (hnode : findMember name members = some node)
    (hread : s.read m node = .ok x) (hrest : rest.extract m members = .ok xs) :
    (Fields.optional name s rest).extract m members = .ok (some x, xs) := by
  rw [Fields.extract, hnode, hrest]
  show ((s.read m node).map some >>= _) = _
  rw [hread]
  rfl

theorem extract_optional_absent (hnone : findMember name members = none)
    (hrest : rest.extract m members = .ok xs) :
    (Fields.optional name s rest).extract m members = .ok (none, xs) := by
  rw [Fields.extract, hnone, hrest]
  rfl

/-! ## Tags -/

variable {tag : String} {labels : List String}

theorem scanLabel_other {found : Option String} {k : String} (hk : k ≠ tag) (nameAfter after : Nat)
    {value : Node} {j : Json} (hvalue : value.value? = some j) (hm : m.allows j.depth)
    (rest : Members) :
    scanLabel tag labels m found (.member (.ok k) nameAfter value after rest) =
      scanLabel tag labels m found rest := by
  rw [scanLabel]
  show (if k = tag then _ else _) = _
  rw [if_neg hk]
  cases m with
  | buffered => rfl
  | streamed room =>
    show (failIf (value.readFault? room) >>= _) = _
    rw [Node.readFault?_eq_none hvalue hm]
    rfl

/-- The label is found wherever the tag stands. -/
theorem scanLabel_middle {label : String} (hlabel : label ∈ labels)
    {before after : List (String × Json)} (hbefore : ∀ e ∈ before, e.1 ≠ tag)
    (hafter : ∀ e ∈ after, e.1 ≠ tag)
    (hm : m.allows (membersDepth (before ++ (tag, .string label) :: after)))
    (h : members.values? = some (before ++ (tag, .string label) :: after)) :
    scanLabel tag labels m none members = .ok (some label) := by
  induction before generalizing members with
  | nil => exact scanLabel_tagged hlabel hafter (m.allows_mono hm (Nat.le_max_right _ _)) h
  | cons e before ih =>
    obtain ⟨nameAfter, value, stop, rest, rfl, hvalue, hrest⟩ := Members.eq_cons h
    have hfirst : m.allows e.2.depth := m.allows_mono hm (Nat.le_max_left _ _)
    rw [scanLabel_other (hbefore e List.mem_cons_self) _ _ hvalue hfirst]
    exact ih (fun d hd => hbefore d (List.mem_cons_of_mem _ hd))
      (m.allows_mono hm (Nat.le_max_right _ _)) hrest

theorem scanLabel_mixed {label : String} (hlabel : label ∈ labels) {kept : List (String × Json)}
    (hkept : ∀ e ∈ kept, e.1 ≠ tag) (hmixed : Mixed (tag :: names) ((tag, .string label) :: kept) ms)
    (hm : m.allows (membersDepth ms)) (h : members.values? = some ms) :
    scanLabel tag labels m none members = .ok (some label) := by
  obtain ⟨before, after, rfl⟩ := List.append_of_mem (hmixed.mem List.mem_cons_self)
  obtain ⟨extras, hextras, hperm⟩ := hmixed
  have hothers : (before ++ after).Perm (kept ++ extras) :=
    (List.perm_middle.symm.trans hperm).cons_inv
  have hne : ∀ e ∈ before ++ after, e.1 ≠ tag := by
    intro e he
    rcases List.mem_append.mp (hothers.mem_iff.mp he) with hmem | hextra
    · exact hkept e hmem
    · exact fun heq => hextras e hextra (heq ▸ List.mem_cons_self)
  exact scanLabel_middle hlabel (fun e he => hne e (List.mem_append_left _ he))
    (fun e he => hne e (List.mem_append_right _ he)) hm h

theorem scanLabel_tag_iff {found : Option String} {nameAfter after : Nat} {value : Node}
    {rest : Members} {r : Option String} :
    scanLabel tag labels m found (.member (.ok tag) nameAfter value after rest) = .ok r ↔
      found = none ∧ ∃ label, readLabel labels m value = .ok label ∧
        scanLabel tag labels m (some label) rest = .ok r := by
  rw [scanLabel]
  show (if tag = tag then _ else _) = _ ↔ _
  rw [if_pos rfl]
  cases found with
  | some label =>
    refine iff_of_false ?_ ?_
    · intro h
      cases h
    · rintro ⟨h, -⟩
      cases h
  | none =>
    show (readLabel labels m value >>= _) = _ ↔ _
    cases readLabel labels m value with
    | error f => simp [bind, Except.bind]
    | ok label => simp [bind, Except.bind]

/-- A scan that does not fail goes on behind a member of another name. -/
theorem scanLabel_other_inv {found : Option String} {k : String} (hk : k ≠ tag)
    {nameAfter after : Nat} {value : Node} {rest : Members} {r : Option String}
    (hscan : scanLabel tag labels m found (.member (.ok k) nameAfter value after rest) = .ok r) :
    scanLabel tag labels m found rest = .ok r := by
  rw [scanLabel] at hscan
  replace hscan : (if k = tag then _ else _) = _ := hscan
  rw [if_neg hk] at hscan
  cases m with
  | buffered => exact hscan
  | streamed room =>
    replace hscan : (failIf (value.readFault? room) >>= _) = _ := hscan
    cases hfault : value.readFault? room with
    | none =>
      rw [hfault] at hscan
      exact hscan
    | some f =>
      rw [hfault] at hscan
      cases hscan

theorem readLabel_string {l label : String} {value : Node} (hvalue : value.value? = some (.string l))
    (hread : readLabel labels m value = .ok label) : l = label := by
  obtain ⟨start, stop, rfl⟩ := Node.eq_string hvalue
  rw [readLabel] at hread
  split at hread
  · exact Except.ok.inj hread
  · cases hread

/-- Where a scan does not fail, the tag stands once at most, and its label is what is found. -/
theorem scanLabel_inv (h : members.values? = some ms) {found r : Option String}
    (hscan : scanLabel tag labels m found members = .ok r) :
    (ms.map (·.1)).count tag + found.toList.length ≤ 1 ∧
      (tag ∉ ms.map (·.1) → r = found) ∧
      ∀ label, (tag, .string label) ∈ ms → r = some label := by
  induction ms generalizing members found with
  | nil =>
    obtain ⟨stop, rfl⟩ := Members.eq_nil h
    cases hscan
    refine ⟨?_, fun _ => rfl, nofun⟩
    cases r <;> simp
  | cons e ms ih =>
    obtain ⟨nameAfter, value, after, rest, rfl, hvalue, hrest⟩ := Members.eq_cons h
    by_cases htag : e.1 = tag
    · subst htag
      obtain ⟨rfl, label, hlabel, hlater⟩ := scanLabel_tag_iff.mp hscan
      obtain ⟨hcount, hnone, -⟩ := ih hrest hlater
      have hzero : (ms.map (·.1)).count e.1 = 0 := by
        simp only [Option.toList_some, List.length_singleton] at hcount
        omega
      have hother : e.1 ∉ ms.map (·.1) := List.count_eq_zero.mp hzero
      have hr : r = some label := hnone hother
      refine ⟨?_, ?_, ?_⟩
      · simp [hzero]
      · intro hnot
        exact absurd List.mem_cons_self hnot
      · intro l hl
        rcases List.mem_cons.mp hl with heq | hmem
        · rw [← heq] at hvalue
          rw [hr, ← readLabel_string hvalue hlabel]
        · exact absurd (List.mem_map_of_mem hmem) hother
    · obtain ⟨hcount, hnone, hlabel⟩ := ih hrest (scanLabel_other_inv htag hscan)
      refine ⟨?_, ?_, ?_⟩
      · rwa [List.map_cons, List.count_cons_of_ne htag]
      · intro hnot
        exact hnone fun hmem => hnot (List.mem_cons_of_mem _ hmem)
      · intro l hl
        rcases List.mem_cons.mp hl with heq | hmem
        · exact absurd (congrArg Prod.fst heq).symm htag
        · exact hlabel l hmem

end PortTunnel.Schema
