import PortTunnel.Json.Basic

/-!
# Looking up what was put

Laws of look-up in a list of members after a member was replaced or added, and of the members
that are left alone (`without`). They hold for lists in which a name stands more than once as
well: the first one is meant throughout.
-/

namespace PortTunnel.Json

@[simp] theorem find?_nil (name : String) : find? name [] = none := rfl

theorem find?_cons (name : String) (m : String × Json) (ms : List (String × Json)) :
    find? name (m :: ms) = if m.1 = name then some m.2 else find? name ms := by
  by_cases h : m.1 = name <;> simp [find?, h]

theorem find?_append (name : String) (ms ns : List (String × Json)) :
    find? name (ms ++ ns) = (find? name ms <|> find? name ns) := by
  induction ms with
  | nil => rfl
  | cons m ms ih =>
    rw [List.cons_append, find?_cons, find?_cons, ih]
    split <;> rfl

@[simp] theorem find?_put_self (name : String) (value : Json) (ms : List (String × Json)) :
    find? name (put name value ms) = some value := by
  induction ms with
  | nil => simp [put, find?_cons]
  | cons m ms ih =>
    by_cases h : m.1 = name
    · simp [put, h, find?_cons]
    · simp [put, h, find?_cons, ih]

theorem find?_put_of_ne {name other : String} (h : name ≠ other) (value : Json)
    (ms : List (String × Json)) : find? other (put name value ms) = find? other ms := by
  induction ms with
  | nil => simp [put, find?_cons, h]
  | cons m ms ih =>
    by_cases hm : m.1 = name
    · have hne : m.1 ≠ other := fun heq => h (hm.symm.trans heq)
      simp [put, hm, find?_cons, h]
    · simp [put, hm, find?_cons, ih]

theorem find?_eq_none_iff {name : String} {ms : List (String × Json)} :
    find? name ms = none ↔ ∀ m ∈ ms, m.1 ≠ name := by
  simp [find?]

/-- Where no name stands twice, every member is found. -/
theorem find?_of_mem {ms : List (String × Json)} (hnodup : (ms.map (·.1)).Nodup)
    {m : String × Json} (h : m ∈ ms) : find? m.1 ms = some m.2 := by
  induction ms with
  | nil => cases h
  | cons n ms ih =>
    rw [List.map_cons, List.nodup_cons] at hnodup
    rw [find?_cons]
    rcases List.mem_cons.mp h with rfl | hmem
    · rw [if_pos rfl]
    · have hne : n.1 ≠ m.1 := fun heq => hnodup.1 (heq ▸ List.mem_map_of_mem hmem)
      rw [if_neg hne]
      exact ih hnodup.2 hmem

theorem eq_nil_iff_find? {ms : List (String × Json)} : ms = [] ↔ ∀ name, find? name ms = none := by
  constructor
  · rintro rfl name
    rfl
  · intro h
    cases ms with
    | nil => rfl
    | cons m ms => exact absurd rfl (find?_eq_none_iff.mp (h m.1) m List.mem_cons_self)

/-- The last of two values of one name is kept. -/
theorem put_put (name : String) (value second : Json) (ms : List (String × Json)) :
    put name second (put name value ms) = put name second ms := by
  induction ms with
  | nil => simp [put]
  | cons m ms ih =>
    by_cases h : m.1 = name
    · simp [put, h]
    · simp [put, h, ih]

/-- To put what is there already changes nothing. -/
theorem put_of_find? {name : String} {value : Json} {ms : List (String × Json)}
    (h : find? name ms = some value) : put name value ms = ms := by
  induction ms with
  | nil => cases h
  | cons m ms ih =>
    rw [find?_cons] at h
    by_cases hm : m.1 = name
    · rw [if_pos hm] at h
      cases h
      subst hm
      rw [put, if_pos rfl]
    · rw [if_neg hm] at h
      rw [put, if_neg hm, ih h]

theorem mem_put {name : String} {value : Json} {m : String × Json} {ms : List (String × Json)}
    (h : m ∈ put name value ms) : m = (name, value) ∨ m ∈ ms := by
  induction ms with
  | nil => exact .inl (List.mem_singleton.mp h)
  | cons n ms ih =>
    rw [put] at h
    split at h
    · rcases List.mem_cons.mp h with heq | hmem
      · exact .inl heq
      · exact .inr (List.mem_cons_of_mem _ hmem)
    · rcases List.mem_cons.mp h with heq | hmem
      · exact .inr (heq ▸ List.mem_cons_self)
      · exact (ih hmem).imp_right (List.mem_cons_of_mem _)

/-! ## The other members -/

/-- The members of other names than the given ones, in their order. -/
def without (names : List String) (ms : List (String × Json)) : List (String × Json) :=
  ms.filter fun m => m.1 ∉ names

theorem without_put {names : List String} {name : String} (h : name ∈ names) (value : Json)
    (ms : List (String × Json)) : without names (put name value ms) = without names ms := by
  induction ms with
  | nil => simp [without, put, h]
  | cons m ms ih =>
    by_cases hm : m.1 = name
    · subst hm
      simp [without, put, h]
    · rw [put, if_neg hm]
      simp only [without, List.filter_cons] at ih ⊢
      rw [ih]

theorem find?_without {names : List String} {name : String} (h : name ∉ names)
    (ms : List (String × Json)) : find? name (without names ms) = find? name ms := by
  induction ms with
  | nil => rfl
  | cons m ms ih =>
    by_cases hm : m.1 ∈ names
    · have hne : m.1 ≠ name := fun heq => h (heq ▸ hm)
      have hskip : without names (m :: ms) = without names ms := by simp [without, hm]
      rw [hskip, ih, find?_cons, if_neg hne]
    · have hkeep : without names (m :: ms) = m :: without names ms := by simp [without, hm]
      rw [hkeep, find?_cons, find?_cons, ih]

theorem member_object (name : String) (ms : List (String × Json)) :
    (Json.object ms).member name = (find? name ms).getD .null := rfl

end PortTunnel.Json
