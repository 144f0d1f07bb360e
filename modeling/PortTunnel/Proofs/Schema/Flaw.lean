import Mathlib.Data.List.Nodup
import PortTunnel.Proofs.Schema.Defaults
import PortTunnel.Proofs.Schema.Members

/-!
# Documents that no value is written as

A document in which a known member stands twice, or one that is required is not there, is refused,
at whatever level of it that is.

* `Shape.Flawed`: such a document.
* `Shape.read_flawed`: it is read as no value, along a text and in memory alike.
-/

namespace PortTunnel.Schema

open Json (Node Items Members Fault)

/-- Two members have the name. -/
def Twice (name : String) (ms : List (String × Json)) : Prop := 2 ≤ (ms.map (·.1)).count name

/-- No member has the name. -/
def Missing (name : String) (ms : List (String × Json)) : Prop := name ∉ ms.map (·.1)

mutual

/-- A record or a union, at any level, with a member twice or without one that it requires. -/
def Shape.Flawed : Shape → Json → Prop
  | .record _ fields, j => ∃ ms, j = .object ms ∧ fields.Flawed ms
  | .union _ tag cases, j =>
    ∃ ms, j = .object ms ∧ (Twice tag ms ∨ Missing tag ms ∨ cases.Flawed tag ms)
  | .list s, j => ∃ xs, j = .array xs ∧ ∃ x ∈ xs, s.Flawed x
  | .nullable s, j => s.Flawed j
  | .text _, _ => False
  | .flag, _ => False
  | .word16, _ => False
  | .word32, _ => False
  | .choice _ _, _ => False
  | .any, _ => False
  | .table, _ => False

def Fields.Flawed : Fields → List (String × Json) → Prop
  | .nil, _ => False
  | .required name s rest, ms =>
    Twice name ms ∨ s.blank?.isNone ∧ Missing name ms ∨ (∃ j, (name, j) ∈ ms ∧ s.Flawed j) ∨
      rest.Flawed ms
  | .optional name s rest, ms =>
    Twice name ms ∨ (∃ j, (name, j) ∈ ms ∧ s.Flawed j) ∨ rest.Flawed ms

/-- The case that counts is the one of the label. -/
def Cases.Flawed (tag : String) : Cases → List (String × Json) → Prop
  | .nil, _ => False
  | .case label _ fields rest, ms =>
    (tag, .string label) ∈ ms ∧ fields.Flawed ms ∨ rest.Flawed tag ms

end

/-! ## Readings that succeed -/

variable {m : Mode} {members : Members} {ms : List (String × Json)}

theorem bind_eq_ok {α β : Type} {x : Except Fault α} {f : α → Except Fault β} {b : β}
    (h : (x >>= f) = .ok b) : ∃ a, x = .ok a ∧ f a = .ok b := by
  cases x with
  | error e => cases h
  | ok a => exact ⟨a, rfl, h⟩

theorem map_eq_ok {α β : Type} {x : Except Fault α} {f : α → β} {b : β} (h : x.map f = .ok b) :
    ∃ a, x = .ok a := by
  cases x with
  | error e => cases h
  | ok a => exact ⟨a, rfl⟩

theorem not_twice_of_nodup {names : List String} {k : String} (hk : k ∈ names)
    (h : (knownNames names ms).Nodup) : ¬ Twice k ms := by
  intro htwice
  have hcount : (knownNames names ms).count k = (ms.map (·.1)).count k :=
    List.count_filter (decide_eq_true hk)
  have hone := List.nodup_iff_count_le_one.mp h k
  rw [hcount] at hone
  exact absurd hone (Nat.not_le.mpr htwice)

theorem readList_ok {α : Type} {read : Node → Except Fault α} {as : List α} {xs : List Json}
    {items : Items} (h : items.values? = some xs) (hread : readList read items = .ok as) {x : Json}
    (hx : x ∈ xs) : ∃ node a, node.value? = some x ∧ read node = .ok a := by
  induction xs generalizing items as with
  | nil => cases hx
  | cons y ys ih =>
    obtain ⟨node, after, rest, rfl, hnode, hrest⟩ := Items.eq_cons h
    obtain ⟨a, ha, hlater⟩ := bind_eq_ok hread
    obtain ⟨bs, hbs, -⟩ := bind_eq_ok hlater
    rcases List.mem_cons.mp hx with rfl | hmem
    · exact ⟨node, a, hnode, ha⟩
    · exact ih hrest hbs hmem

theorem Shape.read_list_ok {s : Shape} {start : Nat} {items : Items} {v : (Shape.list s).Val}
    (h : (Shape.list s).read m (.array start items) = .ok v) :
    ∃ inner, readList (fun node => s.read inner node) items = .ok v := by
  rw [Shape.read.eq_def] at h
  obtain ⟨inner, -, hread⟩ := bind_eq_ok h
  exact ⟨inner, hread⟩

theorem Shape.read_record_ok {title : String} {fields : Fields} {start : Nat} {v : fields.Val}
    (h : (Shape.record title fields).read m (.object start members) = .ok v) :
    ∃ inner, checkMembers fields.names (fun k node => fields.checkOne k inner node) inner []
      members = .ok () ∧ fields.extract inner members = .ok v := by
  rw [Shape.read.eq_def] at h
  obtain ⟨inner, -, hread⟩ := bind_eq_ok h
  obtain ⟨_, hcheck, hextract⟩ := bind_eq_ok hread
  exact ⟨inner, hcheck, hextract⟩

theorem Shape.read_union_ok {title tag : String} {cases : Cases} {start : Nat} {v : cases.Val}
    (h : (Shape.union title tag cases).read m (.object start members) = .ok v) :
    ∃ inner label, scanLabel tag cases.labels inner none members = .ok (some label) ∧
      cases.readMembers label members = .ok v := by
  rw [Shape.read.eq_def] at h
  obtain ⟨inner, -, hread⟩ := bind_eq_ok h
  obtain ⟨found, hscan, hcase⟩ := bind_eq_ok hread
  cases found with
  | none => cases hcase
  | some label => exact ⟨inner, label, hscan, hcase⟩

theorem pair_eq_ok {α β : Type} {x : Except Fault α} {y : Except Fault β} {p : α × β}
    (h : (x >>= fun a => y >>= fun b => .ok (a, b)) = .ok p) : x = .ok p.1 ∧ y = .ok p.2 := by
  obtain ⟨a, hx, hlater⟩ := bind_eq_ok h
  obtain ⟨b, hy, hp⟩ := bind_eq_ok hlater
  cases hp
  exact ⟨hx, hy⟩

theorem extract_required_ok {name : String} {s : Shape} {rest : Fields} {v : s.Val × rest.Val}
    (h : (Fields.required name s rest).extract m members = .ok v) :
    (findMember name members = none → ∃ stop, s.absent m name stop = .ok v.1) ∧
      rest.extract m members = .ok v.2 := by
  rw [Fields.extract] at h
  cases hfind : findMember name members with
  | none =>
    rw [hfind] at h
    obtain ⟨hx, hxs⟩ := pair_eq_ok h
    exact ⟨fun _ => ⟨_, hx⟩, hxs⟩
  | some node =>
    rw [hfind] at h
    exact ⟨nofun, (pair_eq_ok h).2⟩

theorem extract_optional_ok {name : String} {s : Shape} {rest : Fields}
    {v : Option s.Val × rest.Val} (h : (Fields.optional name s rest).extract m members = .ok v) :
    rest.extract m members = .ok v.2 := by
  rw [Fields.extract] at h
  cases hfind : findMember name members with
  | none =>
    rw [hfind] at h
    exact (pair_eq_ok h).2
  | some node =>
    rw [hfind] at h
    exact (pair_eq_ok h).2

/-- A field in front is checked against the members of its name, and the other fields against the
others. -/
theorem checks_cons {first rest : Fields} {name : String} {s : Shape}
    (hfirst : ∀ k node, first.checkOne k m node =
      if k = name then (s.read m node).map (fun _ => ()) else rest.checkOne k m node)
    (hname : name ∉ rest.names)
    (h : ∀ p ∈ pairs members, p.1 ∈ name :: rest.names → first.checkOne p.1 m p.2 = .ok ()) :
    (∀ node, (name, node) ∈ pairs members → ∃ v, s.read m node = .ok v) ∧
      ∀ p ∈ pairs members, p.1 ∈ rest.names → rest.checkOne p.1 m p.2 = .ok () := by
  constructor
  · intro node hnode
    have hown := h (name, node) hnode List.mem_cons_self
    rw [hfirst, if_pos rfl] at hown
    exact map_eq_ok hown
  · intro p hp hk
    have hne : p.1 ≠ name := fun heq => hname (heq ▸ hk)
    have hown := h p hp (List.mem_cons_of_mem _ hk)
    rwa [hfirst, if_neg hne] at hown

/-- Only a field that may be left out has a value where it is not there. -/
theorem Shape.blank?_of_absent {s : Shape} {name : String} {stop : Nat} {x : s.Val}
    (h : s.absent m name stop = .ok x) : s.blank?.isNone = false := by
  cases s with
  | nullable s => rfl
  | _ => cases h

/-! ## Readings that fail -/

theorem Shape.not_flawed_null : ∀ {s : Shape}, ¬ s.Flawed .null
  | .nullable s => Shape.not_flawed_null (s := s)
  | .record _ _ => nofun
  | .union _ _ _ => nofun
  | .list _ => nofun
  | .text _ => id
  | .flag => id
  | .word16 => id
  | .word32 => id
  | .choice _ _ => id
  | .any => id
  | .table => id

theorem Cases.label_of_flawed {tag : String} : ∀ {cs : Cases}, cs.Flawed tag ms →
    ∃ label ∈ cs.labels, (tag, .string label) ∈ ms
  | .case label _ _ _, .inl h => ⟨label, List.mem_cons_self, h.1⟩
  | .case _ _ _ _, .inr h => by
    obtain ⟨label, hmem, hlabel⟩ := Cases.label_of_flawed h
    exact ⟨label, List.mem_cons_of_mem _ hmem, hlabel⟩

mutual

theorem Shape.read_flawed : ∀ {s : Shape}, s.sound → ∀ {j : Json}, s.Flawed j → ∀ {node : Node},
    node.value? = some j → ∀ (m : Mode) (v : s.Val), s.read m node ≠ .ok v
  | .list s, hs, j, hj, node, hnode, m, v => by
    intro hread
    obtain ⟨xs, rfl, x, hx, hflawed⟩ := hj
    obtain ⟨start, items, rfl, hitems⟩ := Node.eq_array hnode
    obtain ⟨inner, hlist⟩ := Shape.read_list_ok hread
    obtain ⟨item, w, hvalue, hitem⟩ := readList_ok hitems hlist hx
    have hsound : s.sound := hs
    exact Shape.read_flawed hsound hflawed hvalue inner w hitem
  | .nullable s, hs, j, hj, node, hnode, m, v => by
    intro hread
    simp only [Shape.sound, Bool.and_eq_true] at hs
    have hflawed : s.Flawed j := hj
    have hne : ∀ start stop, node ≠ .null start stop := by
      rintro start stop rfl
      cases hnode
      exact Shape.not_flawed_null hflawed
    rw [Shape.read_nullable hne] at hread
    obtain ⟨w, hw⟩ := map_eq_ok hread
    exact Shape.read_flawed hs.2 hflawed hnode m w hw
  | .record title fields, hs, j, hj, node, hnode, m, v => by
    intro hread
    simp only [Shape.sound, Bool.and_eq_true, decide_eq_true_eq] at hs
    obtain ⟨ms, rfl, hflawed⟩ := hj
    obtain ⟨start, members, rfl, hmembers⟩ := Node.eq_object hnode
    obtain ⟨inner, hcheck, hextract⟩ := Shape.read_record_ok hread
    obtain ⟨hall, hnodup⟩ := (checkMembers_iff hmembers []).mp hcheck
    exact Fields.not_flawed hs.1 hs.2 hmembers (fun p hp hk => (hall p hp hk).2)
      (fun k hk => not_twice_of_nodup hk hnodup) hextract hflawed
  | .union title tag cases, hs, j, hj, node, hnode, m, v => by
    intro hread
    simp only [Shape.sound, Bool.and_eq_true, decide_eq_true_eq] at hs
    obtain ⟨ms, rfl, hflawed⟩ := hj
    obtain ⟨start, members, rfl, hmembers⟩ := Node.eq_object hnode
    obtain ⟨inner, label, hscan, hcase⟩ := Shape.read_union_ok hread
    obtain ⟨hcount, hnone, hlabel⟩ := scanLabel_inv hmembers hscan
    rcases hflawed with htwice | hmissing | hflawed
    · exact absurd htwice (Nat.not_le.mpr (Nat.lt_succ_of_le hcount))
    · cases hnone hmissing
    · exact Cases.not_flawed hs.1 hs.2 hmembers (fun l hl => Option.some.inj (hlabel l hl)) hcase
        hflawed

theorem Fields.not_flawed : ∀ {fs : Fields}, fs.names.Nodup → fs.sound → ∀ {m : Mode}
    {members : Members} {ms : List (String × Json)}, members.values? = some ms →
      (∀ p ∈ pairs members, p.1 ∈ fs.names → fs.checkOne p.1 m p.2 = .ok ()) →
      (∀ k ∈ fs.names, ¬ Twice k ms) → ∀ {v : fs.Val}, fs.extract m members = .ok v → ¬ fs.Flawed ms
  | .nil, _, _, _, _, _, _, _, _, _, _ => id
  | .required name s rest, hnames, hs, m, members, ms, hmembers, hone, hcount, v, hextract => by
    simp only [Fields.sound, Bool.and_eq_true] at hs
    rw [Fields.names, List.nodup_cons] at hnames
    obtain ⟨hown, hlater⟩ := checks_cons (fun _ _ => by rw [Fields.checkOne]) hnames.1 hone
    obtain ⟨habsent, hrest⟩ := extract_required_ok hextract
    rintro (htwice | ⟨hblank, hmissing⟩ | ⟨j, hj, hflawed⟩ | hflawed)
    · exact hcount name List.mem_cons_self htwice
    · have hnone : Json.find? name ms = none :=
        Json.find?_eq_none_iff.mpr fun e he heq => hmissing (heq ▸ List.mem_map_of_mem he)
      obtain ⟨stop, hstop⟩ := habsent (findMember_eq_none hmembers hnone)
      rw [Shape.blank?_of_absent hstop] at hblank
      cases hblank
    · obtain ⟨node, hnode, hvalue⟩ := pair_of_mem hmembers hj
      obtain ⟨w, hw⟩ := hown node hnode
      exact Shape.read_flawed hs.1 hflawed hvalue m w hw
    · exact Fields.not_flawed hnames.2 hs.2 hmembers hlater
        (fun k hk => hcount k (List.mem_cons_of_mem _ hk)) hrest hflawed
  | .optional name s rest, hnames, hs, m, members, ms, hmembers, hone, hcount, v, hextract => by
    simp only [Fields.sound, Bool.and_eq_true] at hs
    rw [Fields.names, List.nodup_cons] at hnames
    obtain ⟨hown, hlater⟩ := checks_cons (fun _ _ => by rw [Fields.checkOne]) hnames.1 hone
    have hrest := extract_optional_ok hextract
    rintro (htwice | ⟨j, hj, hflawed⟩ | hflawed)
    · exact hcount name List.mem_cons_self htwice
    · obtain ⟨node, hnode, hvalue⟩ := pair_of_mem hmembers hj
      obtain ⟨w, hw⟩ := hown node hnode
      exact Shape.read_flawed hs.1 hflawed hvalue m w hw
    · exact Fields.not_flawed hnames.2 hs.2 hmembers hlater
        (fun k hk => hcount k (List.mem_cons_of_mem _ hk)) hrest hflawed

theorem Cases.not_flawed {tag : String} : ∀ {cs : Cases}, cs.labels.Nodup → cs.sound tag →
    ∀ {members : Members} {ms : List (String × Json)}, members.values? = some ms →
      ∀ {label : String}, (∀ l, (tag, .string l) ∈ ms → label = l) →
        ∀ {v : cs.Val}, cs.readMembers label members = .ok v → ¬ cs.Flawed tag ms
  | .nil, _, _, _, _, _, _, _, _, _ => id
  | .case l title fields rest, hlabels, hs, members, ms, hmembers, label, hlabel, v, hread => by
    simp only [Cases.sound, Bool.and_eq_true, decide_eq_true_eq, List.nodup_cons] at hs
    rw [Cases.labels, List.nodup_cons] at hlabels
    obtain ⟨⟨⟨-, hnames⟩, hfields⟩, hrest⟩ := hs
    rw [Cases.readMembers] at hread
    by_cases hown : label = l
    · rw [if_pos hown] at hread
      obtain ⟨_, hcheck, hmap⟩ := bind_eq_ok hread
      obtain ⟨w, hextract⟩ := map_eq_ok hmap
      obtain ⟨hall, hnodup⟩ := (checkMembers_iff hmembers []).mp hcheck
      rintro (⟨-, hflawed⟩ | hflawed)
      · exact Fields.not_flawed hnames hfields hmembers (fun p hp hk => (hall p hp hk).2)
          (fun k hk => not_twice_of_nodup hk hnodup) hextract hflawed
      · obtain ⟨other, hmem, hother⟩ := Cases.label_of_flawed hflawed
        exact hlabels.1 (hown ▸ hlabel other hother ▸ hmem)
    · rw [if_neg hown] at hread
      obtain ⟨w, hw⟩ := map_eq_ok hread
      rintro (⟨hmem, -⟩ | hflawed)
      · exact hown (hlabel l hmem)
      · exact Cases.not_flawed hlabels.2 hrest hmembers hlabel hw hflawed

end

end PortTunnel.Schema
