import Mathlib.Data.List.Forall2
import PortTunnel.Proofs.Schema.Defaults
import PortTunnel.Proofs.Schema.Members

/-!
# Other forms of a written value

A value can be written in more than one way: members in another order, others among them that are
not known, and members left out whose value is the one that is taken anyway. Where a record lies in
a record, all of this may happen at each level.

* `Shape.Varied`: such a form of a value; `Shape.varied_write`: its written form is one.
* `Shape.read_varied`: every such form is read as the value, but for fields that were left out.
-/

namespace PortTunnel.Schema

open Json (Node Items Members Fault itemsDepth membersDepth)

/-! ## The forms -/

mutual

/-- A form of a value. -/
def Shape.Varied : (s : Shape) → s.Val → Json → Prop
  | .record _ fields, v, j =>
    ∃ ms kept, j = .object ms ∧ fields.Kept v kept ∧ Mixed fields.names kept ms
  | .union _ tag cases, v, j => ∃ ms, j = .object ms ∧ cases.Varied tag v ms
  | .list s, (v : List s.Val), j =>
    ∃ xs, j = .array xs ∧ List.Forall₂ (fun x y => s.Varied x y) v xs
  | .nullable s, (v : Option s.Val), j =>
    match v with
    | none => j = .null
    | some x => s.Varied x j
  | .text expected, v, j => j = (Shape.text expected).write v
  | .flag, v, j => j = Shape.flag.write v
  | .word16, v, j => j = Shape.word16.write v
  | .word32, v, j => j = Shape.word32.write v
  | .choice title words, v, j => j = (Shape.choice title words).write v
  | .any, v, j => j = Shape.any.write v
  | .table, v, j => j = Shape.table.write v

/-- The members that are kept of a record, in the order of its fields: each in a form of its own,
or left out because its value is the one that is taken then. -/
def Fields.Kept : (fs : Fields) → fs.Val → List (String × Json) → Prop
  | .nil, _, kept => kept = []
  | .required name s rest, (v : s.Val × rest.Val), kept =>
    ∃ later, rest.Kept v.2 later ∧
      ((∃ j, s.Varied v.1 j ∧ kept = (name, j) :: later) ∨ s.blank? = some v.1 ∧ kept = later)
  | .optional name s rest, (v : Option s.Val × rest.Val), kept =>
    ∃ later, rest.Kept v.2 later ∧
      match v.1 with
      | none => kept = later
      | some x =>
        (∃ j, s.Varied x j ∧ kept = (name, j) :: later) ∨ s.default? name = some x ∧ kept = later

/-- The members of a union in a form: the tag stands anywhere among those of its case. -/
def Cases.Varied (tag : String) : (cs : Cases) → cs.Val → List (String × Json) → Prop
  | .nil, _, _ => False
  | .case label _ fields rest, (v : fields.Val ⊕ rest.Val), ms =>
    match v with
    | .inl x =>
      ∃ kept, fields.Kept x kept ∧ Mixed (tag :: fields.names) ((tag, .string label) :: kept) ms
    | .inr y => rest.Varied tag y ms

end

theorem Mixed.refl (names : List String) (kept : List (String × Json)) : Mixed names kept kept :=
  ⟨[], nofun, by rw [List.append_nil]⟩

mutual

theorem Shape.varied_write : ∀ (s : Shape) (v : s.Val), s.Varied v (s.write v)
  | .record _ fields, v => ⟨_, _, rfl, fields.kept_write v, .refl _ _⟩
  | .union _ tag cases, v => ⟨_, rfl, cases.varied_write tag v⟩
  | .list s, (v : List s.Val) => by
    refine ⟨_, rfl, ?_⟩
    rw [List.forall₂_map_right_iff]
    exact List.forall₂_same.mpr fun x _ => s.varied_write x
  | .nullable s, v => by
    cases v with
    | none => rfl
    | some x => exact s.varied_write x
  | .text _, _ => rfl
  | .flag, _ => rfl
  | .word16, _ => rfl
  | .word32, _ => rfl
  | .choice _ _, _ => rfl
  | .any, _ => rfl
  | .table, _ => rfl

theorem Fields.kept_write : ∀ (fs : Fields) (v : fs.Val), fs.Kept v (fs.write v)
  | .nil, _ => rfl
  | .required _ s rest, (x, xs) =>
    ⟨rest.write xs, rest.kept_write xs, .inl ⟨s.write x, s.varied_write x, rfl⟩⟩
  | .optional _ _ rest, (none, xs) => ⟨rest.write xs, rest.kept_write xs, rfl⟩
  | .optional _ s rest, (some x, xs) =>
    ⟨rest.write xs, rest.kept_write xs, .inl ⟨s.write x, s.varied_write x, rfl⟩⟩

theorem Cases.varied_write (tag : String) : ∀ (cs : Cases) (v : cs.Val),
    cs.Varied tag v (cs.write tag v)
  | .nil, v => nomatch v
  | .case _ _ fields rest, v => by
    cases v with
    | inl x => exact ⟨fields.write x, fields.kept_write x, .refl _ _⟩
    | inr y => exact rest.varied_write tag y

end

/-! ## What is left out -/

theorem Shape.absent_of_blank? {s : Shape} {x : s.Val} (h : s.blank? = some x) (m : Mode)
    (name : String) (stop : Nat) : s.absent m name stop = .ok x := by
  cases s with
  | nullable s =>
    cases h
    rfl
  | _ => cases h

/-- The names that are kept stand in the order of the fields. -/
theorem Fields.names_kept : ∀ (fs : Fields) {v : fs.Val} {kept : List (String × Json)},
    fs.Kept v kept → (kept.map (·.1)).Sublist fs.names
  | .nil, _, _, h => by
    subst h
    exact .slnil
  | .required name _ rest, _, _, ⟨_, hlater, hown⟩ => by
    have hrest := rest.names_kept hlater
    rcases hown with ⟨j, -, rfl⟩ | ⟨-, rfl⟩
    · exact .cons_cons name hrest
    · exact .cons name hrest
  | .optional name _ rest, (x?, _), _, ⟨_, hlater, hown⟩ => by
    have hrest := rest.names_kept hlater
    cases x? with
    | none =>
      subst hown
      exact .cons name hrest
    | some x =>
      rcases hown with ⟨j, -, rfl⟩ | ⟨-, rfl⟩
      · exact .cons_cons name hrest
      · exact .cons name hrest

theorem Fields.mem_names_kept {fs : Fields} {v : fs.Val} {kept : List (String × Json)}
    (h : fs.Kept v kept) {e : String × Json} (he : e ∈ kept) : e.1 ∈ fs.names :=
  (fs.names_kept h).subset (List.mem_map_of_mem he)

theorem Fields.ne_of_kept {fs : Fields} {v : fs.Val} {kept : List (String × Json)} {name : String}
    (hname : name ∉ fs.names) (h : fs.Kept v kept) : ∀ e ∈ kept, e.1 ≠ name :=
  fun _ he heq => hname (heq ▸ Fields.mem_names_kept h he)

/-- What is found in front of the members of other fields does not hide them. -/
theorem find?_later {name : String} {names : List String} {j : Json}
    {later ms : List (String × Json)} (hname : name ∉ names)
    (h : ∀ k ∈ name :: names, Json.find? k ms = Json.find? k ((name, j) :: later)) :
    ∀ k ∈ names, Json.find? k ms = Json.find? k later := by
  intro k hk
  have hne : name ≠ k := fun heq => hname (heq ▸ hk)
  rw [h k (List.mem_cons_of_mem _ hk), Json.find?_cons, if_neg hne]

theorem Shape.varied_ne_null {s : Shape} (hs : s.neverNull) {v : s.Val} {j : Json}
    (h : s.Varied v j) : j ≠ .null := by
  cases s with
  | record =>
    obtain ⟨ms, kept, rfl, -⟩ := h
    nofun
  | union =>
    obtain ⟨ms, rfl, -⟩ := h
    nofun
  | list s =>
    obtain ⟨xs, rfl, -⟩ := h
    nofun
  | any => cases hs
  | nullable s => cases hs
  | _ =>
    rw [show j = _ from h]
    exact Shape.write_ne_null hs v

/-! ## Depths of parts -/

theorem depth_le_membersDepth {ms : List (String × Json)} {e : String × Json} (h : e ∈ ms) :
    e.2.depth ≤ membersDepth ms := by
  induction ms with
  | nil => cases h
  | cons d ms ih =>
    rcases List.mem_cons.mp h with rfl | hmem
    · exact Nat.le_max_left _ _
    · exact Nat.le_trans (ih hmem) (Nat.le_max_right _ _)

/-! ## Reading the forms -/

theorem readList_forall₂ {α : Type} {read : Node → Except Fault α} {f : α → α}
    {R : α → Json → Prop} {m : Mode}
    (hread : ∀ {a j node}, R a j → m.allows j.depth → node.value? = some j →
      ∃ b, read node = .ok b ∧ f b = f a)
    {as : List α} {xs : List Json} (h : List.Forall₂ R as xs) (hm : m.allows (itemsDepth xs))
    {items : Items} (hitems : items.values? = some xs) :
    ∃ bs, readList read items = .ok bs ∧ bs.map f = as.map f := by
  induction h generalizing items with
  | nil =>
    obtain ⟨stop, rfl⟩ := Items.eq_nil hitems
    exact ⟨[], rfl, rfl⟩
  | cons hfirst _ ih =>
    obtain ⟨node, after, rest, rfl, hnode, hrest⟩ := Items.eq_cons hitems
    obtain ⟨b, hb, hfb⟩ := hread hfirst (m.allows_mono hm (Nat.le_max_left _ _)) hnode
    obtain ⟨bs, hbs, hfbs⟩ := ih (m.allows_mono hm (Nat.le_max_right _ _)) hrest
    refine ⟨b :: bs, ?_, ?_⟩
    · rw [readList, hb, hbs]
      rfl
    · rw [List.map_cons, List.map_cons, hfb, hfbs]

mutual

theorem Shape.read_varied : ∀ {s : Shape}, s.sound → ∀ {m : Mode} {v : s.Val} {j : Json},
    s.Varied v j → m.allows j.depth → ∀ {node : Node}, node.value? = some j →
      ∃ w, s.read m node = .ok w ∧ s.withDefaults w = s.withDefaults v
  | .text expected, hs, m, v, j, h, hm, node, hnode => by
    subst h
    exact ⟨v, Shape.read_write hs hm hnode, rfl⟩
  | .flag, hs, m, v, j, h, hm, node, hnode => by
    subst h
    exact ⟨v, Shape.read_write hs hm hnode, rfl⟩
  | .word16, hs, m, v, j, h, hm, node, hnode => by
    subst h
    exact ⟨v, Shape.read_write hs hm hnode, rfl⟩
  | .word32, hs, m, v, j, h, hm, node, hnode => by
    subst h
    exact ⟨v, Shape.read_write hs hm hnode, rfl⟩
  | .choice _ _, hs, _, _, _, _, _, _, _ => absurd hs (by simp [Shape.sound])
  | .any, hs, _, _, _, _, _, _, _ => absurd hs (by simp [Shape.sound])
  | .table, hs, m, v, j, h, hm, node, hnode => by
    subst h
    have hdepth : (Shape.table.write v).depth = Shape.table.depth :=
      congrArg (· + 1) (membersDepth_entries _)
    exact ⟨v, Shape.read_write hs (hdepth ▸ hm) hnode, rfl⟩
  | .list s, hs, m, v, j, h, hm, node, hnode => by
    have hsound : s.sound := hs
    obtain ⟨xs, rfl, hall⟩ := h
    obtain ⟨start, items, rfl, hitems⟩ := Node.eq_array hnode
    obtain ⟨inner, henter, hinner⟩ := Mode.enter_eq hm start
    rw [Shape.read_list henter]
    exact readList_forall₂ (fun h hm hnode => Shape.read_varied hsound h hm hnode) hall hinner hitems
  | .nullable s, hs, m, v, j, h, hm, node, hnode => by
    simp only [Shape.sound, Bool.and_eq_true] at hs
    cases v with
    | none =>
      subst h
      obtain ⟨start, stop, rfl⟩ := Node.eq_null hnode
      exact ⟨none, rfl, rfl⟩
    | some x =>
      obtain ⟨w, hread, hw⟩ := Shape.read_varied hs.2 (v := x) h hm hnode
      have hne : ∀ start stop, node ≠ .null start stop := by
        rintro start stop rfl
        exact Shape.varied_ne_null hs.1 (v := x) h (Option.some.inj hnode).symm
      refine ⟨some w, ?_, congrArg some hw⟩
      rw [Shape.read_nullable hne, hread]
      rfl
  | .record title fields, hs, m, v, j, h, hm, node, hnode => by
    simp only [Shape.sound, Bool.and_eq_true, decide_eq_true_eq] at hs
    obtain ⟨ms, kept, rfl, hkept, hmixed⟩ := h
    obtain ⟨start, members, rfl, hmembers⟩ := Node.eq_object hnode
    obtain ⟨inner, henter, hinner⟩ := Mode.enter_eq hm start
    have hkeptNames : (kept.map (·.1)).Nodup := hs.1.sublist (fields.names_kept hkept)
    have hroom : ∀ e ∈ kept, inner.allows e.2.depth := fun e he =>
      inner.allows_mono hinner (depth_le_membersDepth (hmixed.mem he))
    have hcheck : checkMembers fields.names (fun k node => fields.checkOne k inner node) inner []
        members = .ok () :=
      hmixed.checkMembers_ok hkeptNames
        (fun e he node hnode => Fields.checkOne_kept hs.1 hs.2 hkept he (hroom e he) hnode) hmembers
    rw [Shape.read_record henter hcheck]
    exact Fields.extract_kept hs.1 hs.2 hkept hroom hmembers fun k hk =>
      hmixed.find?_eq hkeptNames hk
  | .union title tag cases, hs, m, v, j, h, hm, node, hnode => by
    simp only [Shape.sound, Bool.and_eq_true, decide_eq_true_eq] at hs
    obtain ⟨ms, rfl, hvaried⟩ := h
    obtain ⟨start, members, rfl, hmembers⟩ := Node.eq_object hnode
    obtain ⟨inner, henter, hinner⟩ := Mode.enter_eq hm start
    obtain ⟨label, hlabel, hscan, hread⟩ := Cases.readMembers_varied hs.1 hs.2 hvaried
    rw [Shape.read_union henter (hscan hinner hmembers hlabel)]
    exact hread hmembers

theorem Fields.checkOne_kept : ∀ {fs : Fields}, fs.names.Nodup → fs.sound → ∀ {m : Mode}
    {v : fs.Val} {kept : List (String × Json)}, fs.Kept v kept → ∀ {e : String × Json}, e ∈ kept →
      m.allows e.2.depth → ∀ {node : Node}, node.value? = some e.2 →
        fs.checkOne e.1 m node = .ok ()
  | .nil, _, _, m, v, kept, h, e, he, hm, node, hnode => by
    subst h
    cases he
  | .required name s rest, hnames, hs, m, (x, xs), kept, ⟨later, hlater, hown⟩, e, he, hm, node,
      hnode => by
    simp only [Fields.sound, Bool.and_eq_true] at hs
    rw [Fields.names, List.nodup_cons] at hnames
    have hrest : e ∈ later → (Fields.required name s rest).checkOne e.1 m node = .ok () := by
      intro hmem
      rw [Fields.checkOne, if_neg (Fields.ne_of_kept hnames.1 hlater e hmem)]
      exact Fields.checkOne_kept hnames.2 hs.2 hlater hmem hm hnode
    rcases hown with ⟨j, hj, rfl⟩ | ⟨-, rfl⟩
    · rcases List.mem_cons.mp he with rfl | hmem
      · obtain ⟨w, hread, -⟩ := Shape.read_varied hs.1 hj hm hnode
        rw [Fields.checkOne, if_pos rfl, hread]
        rfl
      · exact hrest hmem
    · exact hrest he
  | .optional name s rest, hnames, hs, m, (x?, xs), kept, ⟨later, hlater, hown⟩, e, he, hm, node,
      hnode => by
    simp only [Fields.sound, Bool.and_eq_true] at hs
    rw [Fields.names, List.nodup_cons] at hnames
    have hrest : e ∈ later → (Fields.optional name s rest).checkOne e.1 m node = .ok () := by
      intro hmem
      rw [Fields.checkOne, if_neg (Fields.ne_of_kept hnames.1 hlater e hmem)]
      exact Fields.checkOne_kept hnames.2 hs.2 hlater hmem hm hnode
    cases x? with
    | none =>
      subst hown
      exact hrest he
    | some x =>
      rcases hown with ⟨j, hj, rfl⟩ | ⟨-, rfl⟩
      · rcases List.mem_cons.mp he with rfl | hmem
        · obtain ⟨w, hread, -⟩ := Shape.read_varied hs.1 hj hm hnode
          rw [Fields.checkOne, if_pos rfl, hread]
          rfl
        · exact hrest hmem
      · exact hrest he

theorem Fields.extract_kept : ∀ {fs : Fields}, fs.names.Nodup → fs.sound → ∀ {m : Mode}
    {v : fs.Val} {kept : List (String × Json)}, fs.Kept v kept → (∀ e ∈ kept, m.allows e.2.depth) →
      ∀ {members : Members} {ms : List (String × Json)}, members.values? = some ms →
        (∀ k ∈ fs.names, Json.find? k ms = Json.find? k kept) →
          ∃ w, fs.extract m members = .ok w ∧ fs.withDefaults w = fs.withDefaults v
  | .nil, _, _, _, _, _, _, _, _, _, _, _ => ⟨(), rfl, rfl⟩
  | .required name s rest, hnames, hs, m, (x, xs), kept, ⟨later, hlater, hown⟩, hroom, members, ms,
      hmembers, hfind => by
    simp only [Fields.sound, Bool.and_eq_true] at hs
    rw [Fields.names, List.nodup_cons] at hnames
    have hother : ∀ e ∈ later, e.1 ≠ name := Fields.ne_of_kept hnames.1 hlater
    have hown' := hfind name List.mem_cons_self
    rcases hown with ⟨j, hj, rfl⟩ | ⟨hblank, rfl⟩
    · rw [Json.find?_cons, if_pos rfl] at hown'
      obtain ⟨node, hnode, hvalue⟩ := findMember_eq_some hmembers hown'
      obtain ⟨w, hread, hw⟩ := Shape.read_varied hs.1 hj (hroom _ List.mem_cons_self) hvalue
      obtain ⟨ws, hrest, hws⟩ := Fields.extract_kept hnames.2 hs.2 hlater
        (fun e he => hroom e (List.mem_cons_of_mem _ he)) hmembers (find?_later hnames.1 hfind)
      exact ⟨(w, ws), extract_required hnode hread hrest, congrArg₂ Prod.mk hw hws⟩
    · rw [find?_of_not_mem hother] at hown'
      have hnone := findMember_eq_none hmembers hown'
      obtain ⟨ws, hrest, hws⟩ := Fields.extract_kept hnames.2 hs.2 hlater hroom hmembers
        fun k hk => hfind k (List.mem_cons_of_mem _ hk)
      exact ⟨(x, ws), extract_required_absent hnone (Shape.absent_of_blank? hblank m name _) hrest,
        congrArg (Prod.mk (s.withDefaults x)) hws⟩
  | .optional name s rest, hnames, hs, m, (x?, xs), kept, ⟨later, hlater, hown⟩, hroom, members, ms,
      hmembers, hfind => by
    simp only [Fields.sound, Bool.and_eq_true] at hs
    rw [Fields.names, List.nodup_cons] at hnames
    have hother : ∀ e ∈ later, e.1 ≠ name := Fields.ne_of_kept hnames.1 hlater
    have hown' := hfind name List.mem_cons_self
    -- A field that is not there is read as none, and a default takes its place.
    have habsent : kept = later → (x? <|> s.default? name) = s.default? name →
        ∃ w, (Fields.optional name s rest).extract m members = .ok w ∧
          (Fields.optional name s rest).withDefaults w =
            (Fields.optional name s rest).withDefaults (x?, xs) := by
      rintro rfl hdefault
      rw [find?_of_not_mem hother] at hown'
      have hnone := findMember_eq_none hmembers hown'
      obtain ⟨ws, hrest, hws⟩ := Fields.extract_kept hnames.2 hs.2 hlater hroom hmembers
        fun k hk => hfind k (List.mem_cons_of_mem _ hk)
      refine ⟨(none, ws), extract_optional_absent hnone hrest, ?_⟩
      rw [Fields.withDefaults, Fields.withDefaults, hdefault, hws]
      rfl
    cases x? with
    | none => exact habsent hown rfl
    | some x =>
      rcases hown with ⟨j, hj, rfl⟩ | ⟨hdefault, rfl⟩
      · rw [Json.find?_cons, if_pos rfl] at hown'
        obtain ⟨node, hnode, hvalue⟩ := findMember_eq_some hmembers hown'
        obtain ⟨w, hread, hw⟩ := Shape.read_varied hs.1 hj (hroom _ List.mem_cons_self) hvalue
        obtain ⟨ws, hrest, hws⟩ := Fields.extract_kept hnames.2 hs.2 hlater
          (fun e he => hroom e (List.mem_cons_of_mem _ he)) hmembers (find?_later hnames.1 hfind)
        exact ⟨(some w, ws), extract_optional hnode hread hrest,
          congrArg₂ Prod.mk (congrArg some hw) hws⟩
      · exact habsent rfl hdefault.symm

theorem Cases.readMembers_varied {tag : String} : ∀ {cs : Cases}, cs.labels.Nodup → cs.sound tag →
    ∀ {v : cs.Val} {ms : List (String × Json)}, cs.Varied tag v ms →
      ∃ label ∈ cs.labels,
        (∀ {m : Mode}, m.allows (membersDepth ms) → ∀ {members : Members},
          members.values? = some ms → ∀ {labels}, label ∈ labels →
            scanLabel tag labels m none members = .ok (some label)) ∧
        ∀ {members : Members}, members.values? = some ms →
          ∃ w, cs.readMembers label members = .ok w ∧ cs.withDefaults w = cs.withDefaults v
  | .nil, _, _, _, _, h => nomatch h
  | .case l title fields rest, hlabels, hs, v, ms, h => by
    simp only [Cases.sound, Bool.and_eq_true, decide_eq_true_eq, List.nodup_cons] at hs
    rw [Cases.labels, List.nodup_cons] at hlabels
    obtain ⟨⟨⟨htag, hnames⟩, hfields⟩, hrest⟩ := hs
    cases v with
    | inl x =>
      obtain ⟨kept, hkept, hmixed⟩ := h
      have hkeptNames : (kept.map (·.1)).Nodup := hnames.sublist (fields.names_kept hkept)
      have hkeptTag : ∀ e ∈ kept, e.1 ≠ tag := Fields.ne_of_kept htag hkept
      have hothers : Mixed fields.names kept ms := hmixed.tail (e := (tag, .string l)) htag
      refine ⟨l, List.mem_cons_self, ?_, ?_⟩
      · intro m hm members hmembers labels hl
        exact scanLabel_mixed hl hkeptTag hmixed hm hmembers
      · intro members hmembers
        have hcheck : checkMembers fields.names (fun k node => fields.checkOne k .buffered node)
            .buffered [] members = .ok () :=
          hothers.checkMembers_ok hkeptNames (fun e he node hnode =>
            Fields.checkOne_kept hnames hfields (m := .buffered) hkept he trivial hnode) hmembers
        obtain ⟨w, hextract, hw⟩ := Fields.extract_kept hnames hfields (m := .buffered) hkept
          (fun _ _ => trivial) hmembers fun k hk => hothers.find?_eq hkeptNames hk
        refine ⟨.inl w, ?_, congrArg Sum.inl hw⟩
        rw [Cases.readMembers, if_pos rfl, hcheck]
        show (fields.extract .buffered members).map Sum.inl = _
        rw [hextract]
        rfl
    | inr y =>
      obtain ⟨label, hlabel, hscan, hread⟩ := Cases.readMembers_varied hlabels.2 hrest (v := y) h
      have hne : label ≠ l := fun heq => hlabels.1 (heq ▸ hlabel)
      refine ⟨label, List.mem_cons_of_mem _ hlabel, hscan, fun {members} hmembers => ?_⟩
      obtain ⟨w, hmembers, hw⟩ := hread hmembers
      refine ⟨.inr w, ?_, congrArg Sum.inr hw⟩
      rw [Cases.readMembers, if_neg hne, hmembers]
      rfl

end

end PortTunnel.Schema
