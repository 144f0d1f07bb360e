import Mathlib.Data.List.Nodup
import Mathlib.Logic.Function.Basic
import PortTunnel.Proofs.Json.Members

/-!
# What a JSON value means

Two values mean the same if they differ in nothing but the order of members, at any depth.

* `Json.Meaning`: values whose objects are maps from names to values.
* `Json.meaning`: what a value means.
* `Json.memberMeanings_eq_iff_perm`: where no name stands twice, objects mean the same exactly
  if one has the members of the other in some order.
* `Json.memberMeanings_put`: to put a member is to update the map at its name.
-/

namespace PortTunnel.Json

/-- A value without any order among members. -/
inductive Meaning where
  | null
  | bool (value : Bool)
  | number (value : Json.Number)
  | string (value : String)
  | array (items : List Meaning)
  | object (members : String → Option Meaning)

mutual

def meaning : Json → Meaning
  | .null => .null
  | .bool b => .bool b
  | .number n => .number n
  | .string s => .string s
  | .array xs => .array (itemMeanings xs)
  | .object ms => .object (memberMeanings ms)

def itemMeanings : List Json → List Meaning
  | [] => []
  | x :: xs => meaning x :: itemMeanings xs

/-- What stands under each name; the first of several values of a name counts. -/
def memberMeanings : List (String × Json) → String → Option Meaning
  | [], _ => none
  | m :: ms, name => if m.1 = name then some (meaning m.2) else memberMeanings ms name

end

theorem itemMeanings_eq (xs : List Json) : itemMeanings xs = xs.map meaning := by
  induction xs with
  | nil => rfl
  | cons x xs ih => rw [itemMeanings, ih, List.map_cons]

theorem memberMeanings_eq (ms : List (String × Json)) (name : String) :
    memberMeanings ms name = (find? name ms).map meaning := by
  induction ms with
  | nil => rfl
  | cons m ms ih =>
    rw [memberMeanings, find?_cons, ih]
    split <;> rfl

theorem meaning_array (xs : List Json) : (Json.array xs).meaning = .array (xs.map meaning) := by
  rw [meaning, itemMeanings_eq]

theorem meaning_object (ms : List (String × Json)) :
    (Json.object ms).meaning = .object (memberMeanings ms) := by
  rw [meaning]

/-- Objects mean the same if the same value stands under every name. -/
theorem memberMeanings_congr {ms ns : List (String × Json)}
    (h : ∀ name, find? name ms = find? name ns) : memberMeanings ms = memberMeanings ns := by
  funext name
  rw [memberMeanings_eq, memberMeanings_eq, h]

theorem memberMeanings_put (name : String) (value : Json) (ms : List (String × Json)) :
    memberMeanings (put name value ms) =
      Function.update (memberMeanings ms) name (some value.meaning) := by
  funext other
  rw [memberMeanings_eq]
  by_cases h : name = other
  · subst h
    rw [find?_put_self, Function.update_self]
    rfl
  · rw [find?_put_of_ne h, Function.update_of_ne (Ne.symm h), memberMeanings_eq]

/-! ## The order of members -/

/-- Members with the meaning of their values. -/
def meant (ms : List (String × Json)) : List (String × Meaning) :=
  ms.map fun m => (m.1, m.2.meaning)

theorem memberMeanings_eq_some_iff {ms : List (String × Json)} (hnodup : (ms.map (·.1)).Nodup)
    (name : String) (value : Meaning) :
    memberMeanings ms name = some value ↔ (name, value) ∈ meant ms := by
  induction ms with
  | nil => simp [memberMeanings, meant]
  | cons m ms ih =>
    rw [List.map_cons, List.nodup_cons] at hnodup
    rw [memberMeanings, meant, List.map_cons, List.mem_cons, Prod.mk.injEq]
    by_cases h : m.1 = name
    · have hrest : (name, value) ∉ meant ms := by
        intro hmem
        obtain ⟨n, hn, heq⟩ := List.mem_map.mp hmem
        exact hnodup.1 (h ▸ (Prod.mk.inj heq).1 ▸ List.mem_map_of_mem hn)
      rw [if_pos h, Option.some.injEq]
      constructor
      · intro heq
        exact .inl ⟨h.symm, heq.symm⟩
      · rintro (heq | hmem)
        · exact heq.2.symm
        · exact absurd hmem hrest
    · rw [if_neg h, ih hnodup.2]
      constructor
      · exact .inr
      · rintro (heq | hmem)
        · exact absurd heq.1.symm h
        · exact hmem

theorem nodup_meant {ms : List (String × Json)} (hnodup : (ms.map (·.1)).Nodup) :
    (meant ms).Nodup := by
  refine List.Nodup.of_map Prod.fst ?_
  rwa [meant, List.map_map]

theorem memberMeanings_eq_iff_perm {ms ns : List (String × Json)}
    (hms : (ms.map (·.1)).Nodup) (hns : (ns.map (·.1)).Nodup) :
    memberMeanings ms = memberMeanings ns ↔ (meant ms).Perm (meant ns) := by
  rw [List.perm_ext_iff_of_nodup (nodup_meant hms) (nodup_meant hns)]
  constructor
  · rintro h ⟨name, value⟩
    rw [← memberMeanings_eq_some_iff hms, h, memberMeanings_eq_some_iff hns]
  · intro h
    funext name
    refine Option.ext fun value => ?_
    rw [memberMeanings_eq_some_iff hms, h, memberMeanings_eq_some_iff hns]

end PortTunnel.Json
