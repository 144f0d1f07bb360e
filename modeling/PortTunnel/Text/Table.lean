/-!
# Tables of texts

Finite maps from text to text, listed by ascending key. The order of texts is that of
their characters, which is also the order of their UTF-8 bytes. Two tables with the same
entries are equal, since their lists are.

* `TextTable.insert`: the last value given for a key is kept.
* `TextTable.ofList`: a table from entries in any order.
-/

namespace PortTunnel.Text

/-- Ascending keys, each once. -/
def Ascending : List (String × String) → Prop
  | [] => True
  | [_] => True
  | a :: b :: rest => a.1 < b.1 ∧ Ascending (b :: rest)

instance Ascending.decidable : (xs : List (String × String)) → Decidable (Ascending xs)
  | [] => .isTrue trivial
  | [_] => .isTrue trivial
  | a :: b :: rest =>
    have := Ascending.decidable (b :: rest)
    inferInstanceAs (Decidable (a.1 < b.1 ∧ Ascending (b :: rest)))

theorem Ascending.tail {e : String × String} {rest : List (String × String)}
    (h : Ascending (e :: rest)) : Ascending rest := by
  cases rest with
  | nil => trivial
  | cons b rest => exact h.2

structure TextTable where
  entries : List (String × String)
  ascending : Ascending entries := by trivial
  deriving DecidableEq, Repr

namespace TextTable

def empty : TextTable := ⟨[], trivial⟩

/-- Puts an entry into its place, or replaces the value of its key. -/
def insertEntry (key value : String) : List (String × String) → List (String × String)
  | [] => [(key, value)]
  | e :: rest =>
    if key = e.1 then (key, value) :: rest
    else if key < e.1 then (key, value) :: e :: rest
    else e :: insertEntry key value rest

theorem string_lt_of_not {a b : String} (hne : a ≠ b) (h : ¬ a < b) : b < a :=
  Std.lt_of_le_of_ne (Std.not_lt.mp h) (Ne.symm hne)

theorem ascending_insertEntry (key value : String) (xs : List (String × String))
    (h : Ascending xs) : Ascending (insertEntry key value xs) := by
  induction xs with
  | nil => trivial
  | cons e rest ih =>
    simp only [insertEntry]
    split
    · rename_i heq
      cases rest with
      | nil => trivial
      | cons b rest => exact ⟨heq ▸ h.1, h.2⟩
    · rename_i hne
      split
      · rename_i hlt
        exact ⟨hlt, h⟩
      · rename_i hnot
        have hgt : e.1 < key := string_lt_of_not hne hnot
        have ih := ih h.tail
        cases rest with
        | nil => exact ⟨hgt, trivial⟩
        | cons b rest =>
          simp only [insertEntry] at ih ⊢
          split
          · exact ⟨hgt, by simpa only [insertEntry, *, if_true] using ih⟩
          · split
            · exact ⟨hgt, by simpa only [insertEntry, *, if_true, if_false] using ih⟩
            · exact ⟨h.1, by simpa only [insertEntry, *, if_false] using ih⟩

def insert (t : TextTable) (key value : String) : TextTable :=
  ⟨insertEntry key value t.entries, ascending_insertEntry key value t.entries t.ascending⟩

theorem ascending_filter (p : String × String → Bool) (xs : List (String × String))
    (h : xs.Pairwise fun a b => a.1 < b.1) : (xs.filter p).Pairwise fun a b => a.1 < b.1 :=
  h.sublist List.filter_sublist

theorem ascending_iff_pairwise (xs : List (String × String)) :
    Ascending xs ↔ xs.Pairwise fun a b => a.1 < b.1 := by
  induction xs with
  | nil => simp [Ascending]
  | cons a rest ih =>
    cases rest with
    | nil => simp [Ascending]
    | cons b rest =>
      simp only [Ascending, ih, List.pairwise_cons, List.mem_cons, forall_eq_or_imp]
      constructor
      · rintro ⟨hab, hb, hrest⟩
        exact ⟨⟨hab, fun c hc => Std.lt_trans hab (hb c hc)⟩, hb, hrest⟩
      · rintro ⟨⟨hab, _⟩, hb, hrest⟩
        exact ⟨hab, hb, hrest⟩

/-- The table without a key. -/
def erase (t : TextTable) (key : String) : TextTable :=
  ⟨t.entries.filter fun e => e.1 != key,
    (ascending_iff_pairwise _).2 (ascending_filter _ _ ((ascending_iff_pairwise _).1 t.ascending))⟩

def ofList (xs : List (String × String)) : TextTable :=
  xs.foldl (fun t e => t.insert e.1 e.2) empty

def toList (t : TextTable) : List (String × String) := t.entries

def isEmpty (t : TextTable) : Bool := t.entries.isEmpty

def get? (t : TextTable) (key : String) : Option String :=
  (t.entries.find? (·.1 = key)).map (·.2)

end TextTable

end PortTunnel.Text
