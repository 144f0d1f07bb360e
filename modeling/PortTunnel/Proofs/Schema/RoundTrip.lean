import PortTunnel.Schema.Reading
import PortTunnel.Proofs.Schema.Sound

/-!
# Written values read back

A tree that stands for the written form of a value is read as this value, along a text and
in memory alike. Along a text there has to be room for the depth of the shape.

* `Mode.allows`: room for a number of levels.
* `Shape.read_write`: the round trip, for every sound shape.
-/

namespace PortTunnel.Schema

open Json (Node Items Members Fault membersDepth)
open Text (TextTable)

/-! ## Room -/

/-- A text that is read on leaves room for `depth` more levels; memory always does. -/
def Mode.allows (m : Mode) (depth : Nat) : Prop :=
  match m with
  | .streamed room => depth < room
  | .buffered => True

theorem Mode.allows_mono {m : Mode} {d e : Nat} (hm : m.allows e) (h : d ≤ e) : m.allows d := by
  cases m with
  | streamed room => exact Nat.lt_of_le_of_lt h hm
  | buffered => trivial

theorem Mode.enter_eq {m : Mode} {d : Nat} (hm : m.allows (d + 1)) (start : Nat) :
    ∃ inner : Mode, m.enter start = .ok inner ∧ inner.allows d := by
  cases m with
  | streamed room =>
    have hroom : d + 1 < room := hm
    have hnot : ¬ room ≤ 1 := by omega
    refine ⟨.streamed (room - 1), by simp [Mode.enter, hnot], ?_⟩
    show d < room - 1
    omega
  | buffered => exact ⟨.buffered, rfl, trivial⟩

/-! ## Lists and tables -/

theorem readList_map {α : Type} {read : Node → Except Fault α} {write : α → Json}
    (h : ∀ node a, node.value? = some (write a) → read node = .ok a) (as : List α)
    {items : Items} (hitems : items.values? = some (as.map write)) :
    readList read items = .ok as := by
  induction as generalizing items with
  | nil =>
    obtain ⟨stop, rfl⟩ := Items.eq_nil hitems
    rfl
  | cons a as ih =>
    obtain ⟨node, after, rest, rfl, hnode, hrest⟩ := Items.eq_cons hitems
    rw [readList, h node a hnode, ih hrest]
    rfl

theorem insertEntry_last {key value : String} {es more : List (String × String)}
    (h : Text.Ascending (es ++ (key, value) :: more)) :
    TextTable.insertEntry key value es = es ++ [(key, value)] := by
  induction es with
  | nil => rfl
  | cons e es ih =>
    rw [Text.TextTable.ascending_iff_pairwise, List.cons_append, List.pairwise_cons] at h
    have hlt : e.1 < key := h.1 (key, value) (by simp)
    have hne : key ≠ e.1 := by
      rintro rfl
      exact Std.lt_irrefl hlt
    have hnot : ¬ key < e.1 := fun hgt => Std.lt_irrefl (Std.lt_trans hlt hgt)
    rw [TextTable.insertEntry, if_neg hne, if_neg hnot,
      ih ((Text.TextTable.ascending_iff_pairwise _).mpr h.2)]
    rfl

/-- Entries that follow those of a table are added behind them. -/
theorem readTable_entries (m : Mode) {es : List (String × String)} {t : TextTable}
    (hall : Text.Ascending (t.entries ++ es)) {members : Members}
    (hmembers : members.values? = some (es.map fun e => (e.1, .string e.2))) :
    readTable m t members = .ok ⟨t.entries ++ es, hall⟩ := by
  induction es generalizing t members with
  | nil =>
    obtain ⟨stop, rfl⟩ := Members.eq_nil hmembers
    simp [readTable]
  | cons e es ih =>
    obtain ⟨nameAfter, value, after, rest, rfl, hvalue, hrest⟩ := Members.eq_cons hmembers
    obtain ⟨start, stop, rfl⟩ := Node.eq_string hvalue
    have hlast : (t.insert e.1 e.2).entries = t.entries ++ [e] := insertEntry_last hall
    have hnext : Text.Ascending ((t.insert e.1 e.2).entries ++ es) := by
      rw [hlast, List.append_assoc]
      exact hall
    rw [readTable]
    show readTable m (t.insert e.1 e.2) rest = _
    rw [ih hnext hrest]
    simp [hlast]

/-! ## Members -/

theorem findMember_of_values {members : Members} {ms : List (String × Json)}
    (h : members.values? = some ms) (name : String) :
    (findMember name members = none ∧ Json.find? name ms = none) ∨
      ∃ node j, findMember name members = some node ∧ Json.find? name ms = some j ∧
        node.value? = some j := by
  induction ms generalizing members with
  | nil =>
    obtain ⟨stop, rfl⟩ := Members.eq_nil h
    exact .inl ⟨rfl, rfl⟩
  | cons m ms ih =>
    obtain ⟨nameAfter, value, after, rest, rfl, hvalue, hrest⟩ := Members.eq_cons h
    by_cases hname : m.1 = name
    · exact .inr ⟨value, m.2, by simp [findMember, hname], by simp [Json.find?, hname], hvalue⟩
    · simpa [findMember, Json.find?, hname] using ih hrest

theorem find?_of_not_mem {name : String} {ms : List (String × Json)} (h : ∀ e ∈ ms, e.1 ≠ name) :
    Json.find? name ms = none := by
  simpa [Json.find?, List.find?_eq_none] using h

theorem checkMembers_ok {names : List String} {field : String → Node → Except Fault Unit}
    {m : Mode} {ms : List (String × Json)} (hnames : ∀ e ∈ ms, e.1 ∈ names)
    (hfield : ∀ e ∈ ms, ∀ node, node.value? = some e.2 → field e.1 node = .ok ())
    {seen : List String} (hseen : ∀ e ∈ ms, e.1 ∉ seen) (hnodup : (ms.map (·.1)).Nodup)
    {members : Members} (hmembers : members.values? = some ms) :
    checkMembers names field m seen members = .ok () := by
  induction ms generalizing seen members with
  | nil =>
    obtain ⟨stop, rfl⟩ := Members.eq_nil hmembers
    rfl
  | cons e ms ih =>
    obtain ⟨nameAfter, value, after, rest, rfl, hvalue, hrest⟩ := Members.eq_cons hmembers
    rw [List.map_cons, List.nodup_cons] at hnodup
    have hlater : ∀ d ∈ ms, d.1 ∉ e.1 :: seen := by
      intro d hd hmem
      rcases List.mem_cons.mp hmem with heq | hold
      · exact hnodup.1 (heq ▸ List.mem_map_of_mem hd)
      · exact hseen d (List.mem_cons_of_mem _ hd) hold
    have hnext := ih (fun d hd => hnames d (List.mem_cons_of_mem _ hd))
      (fun d hd => hfield d (List.mem_cons_of_mem _ hd)) hlater hnodup.2 hrest
    have hwithin : m.within after (field e.1 value) = .ok () := by
      rw [hfield e List.mem_cons_self value hvalue]
      cases m <;> rfl
    rw [checkMembers]
    show (if e.1 ∈ names then _ else _) = _
    rw [if_pos (hnames e List.mem_cons_self), if_neg (hseen e List.mem_cons_self), hwithin]
    exact hnext

/-- In memory a member that is no field is passed over. -/
theorem checkMembers_passes {names : List String} {field : String → Node → Except Fault Unit}
    {seen : List String} {k : String} (hk : k ∉ names) (nameAfter after : Nat) (value : Node)
    (rest : Members) :
    checkMembers names field .buffered seen (.member (.ok k) nameAfter value after rest) =
      checkMembers names field .buffered seen rest := by
  rw [checkMembers]
  show (if k ∈ names then _ else _) = _
  rw [if_neg hk]
  rfl

theorem scanLabel_rest {tag : String} {labels : List String} {m : Mode} {found : Option String}
    {ms : List (String × Json)} (htag : ∀ e ∈ ms, e.1 ≠ tag) (hm : m.allows (membersDepth ms))
    {members : Members} (hmembers : members.values? = some ms) :
    scanLabel tag labels m found members = .ok found := by
  induction ms generalizing members with
  | nil =>
    obtain ⟨stop, rfl⟩ := Members.eq_nil hmembers
    rfl
  | cons e ms ih =>
    obtain ⟨nameAfter, value, after, rest, rfl, hvalue, hrest⟩ := Members.eq_cons hmembers
    have hdepth : membersDepth (e :: ms) = max e.2.depth (membersDepth ms) := rfl
    have hnext := ih (fun d hd => htag d (List.mem_cons_of_mem _ hd))
      (m.allows_mono hm (by omega)) hrest
    rw [scanLabel]
    show (if e.1 = tag then _ else _) = _
    rw [if_neg (htag e List.mem_cons_self)]
    cases m with
    | buffered => exact hnext
    | streamed room =>
      have hroom : membersDepth (e :: ms) < room := hm
      show (failIf (value.readFault? room) >>= _) = _
      rw [Node.readFault?_eq_none hvalue (by omega)]
      exact hnext

/-- A union is written with its label first. -/
theorem scanLabel_tagged {tag label : String} {labels : List String} (hlabel : label ∈ labels)
    {m : Mode} {ms : List (String × Json)} (htag : ∀ e ∈ ms, e.1 ≠ tag)
    (hm : m.allows (membersDepth ms)) {members : Members}
    (hmembers : members.values? = some ((tag, .string label) :: ms)) :
    scanLabel tag labels m none members = .ok (some label) := by
  obtain ⟨nameAfter, value, after, rest, rfl, hvalue, hrest⟩ := Members.eq_cons hmembers
  obtain ⟨start, stop, rfl⟩ := Node.eq_string hvalue
  rw [scanLabel]
  show (if tag = tag then _ else _) = _
  rw [if_pos rfl]
  show (readLabel labels m (.string start stop (.ok label)) >>= _) = _
  rw [show readLabel labels m (.string start stop (.ok label)) = .ok label by
    simp [readLabel, hlabel]]
  exact scanLabel_rest htag hm hrest

/-! ## Shapes -/

theorem readWord_nat {expected : String} {bound n : Nat} (h : n < bound) {m : Mode} {node : Node}
    (hnode : node.value? = some (.nat n)) : readWord expected bound m node = .ok n := by
  obtain ⟨start, stop, rfl⟩ := Node.eq_number hnode
  simp [readWord, h]

theorem Shape.read_word16 {m : Mode} {v : UInt16} {node : Node}
    (h : node.value? = some (.nat v.toNat)) : Shape.word16.read m node = .ok v := by
  have hread : readWord "u16" UInt16.size m node = .ok v.toNat := readWord_nat v.toNat_lt_size h
  unfold Shape.read
  simp [hread, Except.map]

theorem Shape.read_word32 {m : Mode} {v : UInt32} {node : Node}
    (h : node.value? = some (.nat v.toNat)) : Shape.word32.read m node = .ok v := by
  have hread : readWord "u32" UInt32.size m node = .ok v.toNat := readWord_nat v.toNat_lt_size h
  unfold Shape.read
  simp [hread, Except.map]

theorem Shape.read_list {s : Shape} {m inner : Mode} {start : Nat}
    (henter : m.enter start = .ok inner) (items : Items) :
    (Shape.list s).read m (.array start items) =
      readList (fun node => s.read inner node) items := by
  rw [Shape.read.eq_def]
  simp only [henter]
  rfl

theorem Shape.read_table {m inner : Mode} {start : Nat} (henter : m.enter start = .ok inner)
    (members : Members) :
    Shape.table.read m (.object start members) = readTable inner .empty members := by
  rw [Shape.read.eq_def]
  simp only [henter]
  rfl

theorem Shape.read_nullable {s : Shape} {m : Mode} {node : Node}
    (hne : ∀ start stop, node ≠ .null start stop) :
    (Shape.nullable s).read m node = (s.read m node).map some := by
  rw [Shape.read.eq_def]
  cases node with
  | null start stop => exact absurd rfl (hne start stop)
  | _ => rfl

theorem Shape.read_record {title : String} {fields : Fields} {m inner : Mode} {start : Nat}
    (henter : m.enter start = .ok inner) {members : Members}
    (hcheck : checkMembers fields.names (fun k node => fields.checkOne k inner node) inner []
      members = .ok ()) :
    (Shape.record title fields).read m (.object start members) = fields.extract inner members := by
  rw [Shape.read.eq_def]
  simp only [henter]
  show (checkMembers _ _ _ _ _ >>= _) = _
  rw [hcheck]
  rfl

theorem Shape.read_union {title tag label : String} {cases : Cases} {m inner : Mode} {start : Nat}
    (henter : m.enter start = .ok inner) {members : Members}
    (hscan : scanLabel tag cases.labels inner none members = .ok (some label)) :
    (Shape.union title tag cases).read m (.object start members) =
      cases.readMembers label members := by
  rw [Shape.read.eq_def]
  simp only [henter]
  show (scanLabel _ _ _ _ _ >>= _) = _
  rw [hscan]
  rfl

theorem Shape.write_ne_null : ∀ {s : Shape}, s.neverNull → ∀ v : s.Val, s.write v ≠ .null
  | .text _, _, _ => by simp [Shape.write]
  | .flag, _, _ => by simp [Shape.write]
  | .word16, _, _ => by simp [Shape.write, Json.nat]
  | .word32, _, _ => by simp [Shape.write, Json.nat]
  | .choice _ _, _, _ => by simp [Shape.write]
  | .any, h, _ => absurd h (by simp [Shape.neverNull])
  | .list _, _, _ => by simp [Shape.write]
  | .table, _, _ => by simp [Shape.write]
  | .nullable _, h, _ => absurd h (by simp [Shape.neverNull])
  | .record _ _, _, _ => by simp [Shape.write]
  | .union _ _ _, _, _ => by simp [Shape.write]

theorem Cases.write_tagged {tag : String} {cs : Cases} (hs : cs.sound tag) (v : cs.Val) :
    ∃ label ms, cs.write tag v = (tag, .string label) :: ms ∧ label ∈ cs.labels ∧
      ∀ e ∈ ms, e.1 ≠ tag := by
  cases cs with
  | nil => cases v
  | case label _ fields rest =>
    simp only [Cases.sound, Bool.and_eq_true, decide_eq_true_eq, List.nodup_cons] at hs
    cases v with
    | inl x =>
      refine ⟨label, fields.write x, rfl, List.mem_cons_self, ?_⟩
      rintro e he rfl
      exact hs.1.1.1 (Fields.mem_names he)
    | inr y =>
      obtain ⟨l, ms, hwrite, hl, htag⟩ := Cases.write_tagged hs.2 y
      exact ⟨l, ms, hwrite, List.mem_cons_of_mem _ hl, htag⟩

mutual

-- Induction is on the shape: what a field holds is of a smaller shape than its record.
theorem Shape.read_write : ∀ {s : Shape}, s.sound → ∀ {m : Mode}, m.allows s.depth →
    ∀ {v : s.Val} {node : Node}, node.value? = some (s.write v) → s.read m node = .ok v
  | .text _, _, m, _, v, node, h => by
    obtain ⟨start, stop, rfl⟩ := Node.eq_string h
    rfl
  | .flag, _, m, _, v, node, h => by
    obtain ⟨start, stop, rfl⟩ := Node.eq_bool h
    rfl
  | .word16, _, m, _, (v : UInt16), node, h => Shape.read_word16 h
  | .word32, _, m, _, (v : UInt32), node, h => Shape.read_word32 h
  | .choice _ _, hs, _, _, _, _, _ => absurd hs (by simp [Shape.sound])
  | .any, hs, _, _, _, _, _ => absurd hs (by simp [Shape.sound])
  | .list s, hs, m, hm, (v : List s.Val), node, h => by
    have hsound : s.sound := hs
    obtain ⟨start, items, rfl, hitems⟩ := Node.eq_array h
    obtain ⟨inner, henter, hinner⟩ := Mode.enter_eq hm start
    rw [Shape.read_list henter]
    exact readList_map (fun node a hnode => Shape.read_write hsound hinner hnode) v hitems
  | .table, _, m, hm, (v : TextTable), node, h => by
    obtain ⟨start, members, rfl, hmembers⟩ := Node.eq_object h
    obtain ⟨inner, henter, -⟩ := Mode.enter_eq hm start
    rw [Shape.read_table henter]
    exact readTable_entries inner (t := .empty) v.ascending hmembers
  | .nullable s, hs, m, hm, v, node, h => by
    simp only [Shape.sound, Bool.and_eq_true] at hs
    cases v with
    | none =>
      obtain ⟨start, stop, rfl⟩ := Node.eq_null h
      rfl
    | some x =>
      have hread := Shape.read_write hs.2 hm (v := x) h
      have hne : ∀ start stop, node ≠ .null start stop := by
        rintro start stop rfl
        exact Shape.write_ne_null hs.1 x (Option.some.inj h).symm
      rw [Shape.read_nullable hne, hread]
      rfl
  | .record title fields, hs, m, hm, v, node, h => by
    simp only [Shape.sound, Bool.and_eq_true, decide_eq_true_eq] at hs
    obtain ⟨start, members, rfl, hmembers⟩ := Node.eq_object h
    obtain ⟨inner, henter, hinner⟩ := Mode.enter_eq hm start
    have hcheck : checkMembers fields.names (fun k node => fields.checkOne k inner node) inner []
        members = .ok () := by
      refine checkMembers_ok (fun e he => Fields.mem_names he) ?_ (fun e _ => List.not_mem_nil)
        (hs.1.sublist (fields.sublist_names v)) hmembers
      exact fun e he node hnode => Fields.checkOne_write hs.1 hs.2 hinner he hnode
    have hextract := Fields.extract_write hs.1 hs.2 hinner (v := v) hmembers (fun _ _ => rfl)
    rw [Shape.read_record henter hcheck]
    exact hextract
  | .union title tag cases, hs, m, hm, v, node, h => by
    simp only [Shape.sound, Bool.and_eq_true, decide_eq_true_eq] at hs
    obtain ⟨start, members, rfl, hmembers⟩ := Node.eq_object h
    obtain ⟨inner, henter, hinner⟩ := Mode.enter_eq hm start
    have hmembers : members.values? = some (cases.write tag v) := hmembers
    obtain ⟨label, ms, hwrite, hlabel, htag⟩ := Cases.write_tagged hs.2 v
    have hdepth := Cases.depth_write hs.2 v
    rw [hwrite] at hdepth hmembers
    have hms : membersDepth ms ≤ cases.depth := by
      simp only [membersDepth] at hdepth
      omega
    have hscan := scanLabel_tagged hlabel htag (inner.allows_mono hinner hms) hmembers
    have hcase := Cases.readMembers_write hs.1 hs.2 (v := v) hwrite hmembers
    rw [Shape.read_union henter hscan]
    exact hcase

theorem Fields.checkOne_write : ∀ {fs : Fields}, fs.names.Nodup → fs.sound → ∀ {m : Mode},
    m.allows fs.depth → ∀ {v : fs.Val} {e : String × Json}, e ∈ fs.write v → ∀ {node : Node},
      node.value? = some e.2 → fs.checkOne e.1 m node = .ok ()
  | .nil, _, _, _, _, _, _, he, _, _ => absurd he List.not_mem_nil
  | .required name s rest, hnames, hs, m, hm, (x, vs), e, he, node, h => by
    simp only [Fields.sound, Bool.and_eq_true] at hs
    rw [Fields.names, List.nodup_cons] at hnames
    rcases List.mem_cons.mp he with rfl | hrest
    · rw [Fields.checkOne, if_pos rfl,
        Shape.read_write hs.1 (m.allows_mono hm (Nat.le_max_left _ _)) h]
      rfl
    · have hne : e.1 ≠ name := fun heq => hnames.1 (heq ▸ Fields.mem_names hrest)
      rw [Fields.checkOne, if_neg hne]
      exact Fields.checkOne_write hnames.2 hs.2 (m.allows_mono hm (Nat.le_max_right _ _)) hrest h
  | .optional name s rest, hnames, hs, m, hm, (x, vs), e, he, node, h => by
    simp only [Fields.sound, Bool.and_eq_true] at hs
    rw [Fields.names, List.nodup_cons] at hnames
    have hlater : e ∈ rest.write vs →
        (Fields.optional name s rest).checkOne e.1 m node = .ok () := by
      intro hrest
      have hne : e.1 ≠ name := fun heq => hnames.1 (heq ▸ Fields.mem_names hrest)
      rw [Fields.checkOne, if_neg hne]
      exact Fields.checkOne_write hnames.2 hs.2 (m.allows_mono hm (Nat.le_max_right _ _)) hrest h
    cases x with
    | none => exact hlater he
    | some x =>
      rcases List.mem_cons.mp he with rfl | hrest
      · rw [Fields.checkOne, if_pos rfl,
          Shape.read_write hs.1 (m.allows_mono hm (Nat.le_max_left _ _)) h]
        rfl
      · exact hlater hrest

/-- The members may hold more than the fields, as long as each field finds its own. -/
theorem Fields.extract_write : ∀ {fs : Fields}, fs.names.Nodup → fs.sound → ∀ {m : Mode},
    m.allows fs.depth → ∀ {v : fs.Val} {members : Members} {ms : List (String × Json)},
      members.values? = some ms →
      (∀ k ∈ fs.names, Json.find? k ms = Json.find? k (fs.write v)) →
      fs.extract m members = .ok v
  | .nil, _, _, _, _, _, _, _, _, _ => rfl
  | .required name s rest, hnames, hs, m, hm, (x, vs), members, ms, h, hfind => by
    simp only [Fields.sound, Bool.and_eq_true] at hs
    rw [Fields.names, List.nodup_cons] at hnames
    have hrest : rest.extract m members = .ok vs := by
      refine Fields.extract_write hnames.2 hs.2 (m.allows_mono hm (Nat.le_max_right _ _)) h ?_
      intro k hk
      have hne : name ≠ k := fun heq => hnames.1 (heq ▸ hk)
      rw [hfind k (List.mem_cons_of_mem _ hk)]
      simp [Fields.write, Json.find?, hne]
    have hown : Json.find? name ms = some (s.write x) := by
      rw [hfind name List.mem_cons_self]
      simp [Fields.write, Json.find?]
    rcases findMember_of_values h name with ⟨-, hnone⟩ | ⟨node, j, hnode, hj, hvalue⟩
    · rw [hown] at hnone
      cases hnone
    · rw [hown] at hj
      cases hj
      rw [Fields.extract, hnode, hrest]
      show (s.read m node >>= _) = _
      rw [Shape.read_write hs.1 (m.allows_mono hm (Nat.le_max_left _ _)) hvalue]
      rfl
  | .optional name s rest, hnames, hs, m, hm, (x, vs), members, ms, h, hfind => by
    simp only [Fields.sound, Bool.and_eq_true] at hs
    rw [Fields.names, List.nodup_cons] at hnames
    have hrest : rest.extract m members = .ok vs := by
      refine Fields.extract_write hnames.2 hs.2 (m.allows_mono hm (Nat.le_max_right _ _)) h ?_
      intro k hk
      have hne : name ≠ k := fun heq => hnames.1 (heq ▸ hk)
      rw [hfind k (List.mem_cons_of_mem _ hk)]
      cases x <;> simp [Fields.write, Json.find?, hne]
    have hown : Json.find? name ms = x.map s.write := by
      rw [hfind name List.mem_cons_self]
      cases x with
      | none => exact find?_of_not_mem fun e he heq => hnames.1 (heq ▸ Fields.mem_names he)
      | some x => simp [Fields.write, Json.find?]
    rcases findMember_of_values h name with ⟨hnode, hnone⟩ | ⟨node, j, hnode, hj, hvalue⟩
    · rw [hown, Option.map_eq_none_iff] at hnone
      subst hnone
      rw [Fields.extract, hnode, hrest]
      rfl
    · rw [hown] at hj
      obtain ⟨y, rfl, rfl⟩ := Option.map_eq_some_iff.mp hj
      rw [Fields.extract, hnode, hrest]
      show ((s.read m node).map some >>= _) = _
      rw [Shape.read_write hs.1 (m.allows_mono hm (Nat.le_max_left _ _)) hvalue]
      rfl

theorem Cases.readMembers_write {tag : String} : ∀ {cs : Cases}, cs.labels.Nodup →
    cs.sound tag → ∀ {v : cs.Val} {label : String} {ms : List (String × Json)},
      cs.write tag v = (tag, .string label) :: ms → ∀ {members : Members},
        members.values? = some ((tag, .string label) :: ms) →
        cs.readMembers label members = .ok v
  | .nil, _, _, v, _, _, _, _, _ => nomatch v
  | .case l title fields rest, hlabels, hs, v, label, ms, hwrite, members, h => by
    simp only [Cases.sound, Bool.and_eq_true, decide_eq_true_eq, List.nodup_cons] at hs
    rw [Cases.labels, List.nodup_cons] at hlabels
    obtain ⟨⟨⟨htag, hnames⟩, hfields⟩, hrest⟩ := hs
    cases v with
    | inl x =>
      simp only [Cases.write, List.cons.injEq, Prod.mk.injEq, Json.string.injEq, true_and] at hwrite
      obtain ⟨rfl, rfl⟩ := hwrite
      have hextract := Fields.extract_write hnames hfields (m := .buffered) trivial (v := x) h <| by
        intro k hk
        have hne : tag ≠ k := fun heq => htag (heq ▸ hk)
        simp [Json.find?, hne]
      obtain ⟨nameAfter, value, after, members, rfl, -, hmembers⟩ := Members.eq_cons h
      have hcheck : checkMembers fields.names (fun k node => fields.checkOne k .buffered node)
          .buffered [] members = .ok () := by
        refine checkMembers_ok (fun e he => Fields.mem_names he) ?_ (fun e _ => List.not_mem_nil)
          (hnames.sublist (fields.sublist_names x)) hmembers
        intro e he node hnode
        exact Fields.checkOne_write hnames hfields (m := .buffered) trivial he hnode
      rw [Cases.readMembers, if_pos rfl, checkMembers_passes htag, hcheck]
      show (fields.extract .buffered _).map Sum.inl = _
      rw [hextract]
      rfl
    | inr y =>
      have hwritten : rest.write tag y = (tag, .string label) :: ms := hwrite
      have hne : label ≠ l := by
        rintro rfl
        obtain ⟨other, more, hother, hmem, -⟩ := Cases.write_tagged hrest y
        rw [hwritten] at hother
        cases hother
        exact hlabels.1 hmem
      rw [Cases.readMembers, if_neg hne, Cases.readMembers_write hlabels.2 hrest hwritten h]
      rfl

end

end PortTunnel.Schema
