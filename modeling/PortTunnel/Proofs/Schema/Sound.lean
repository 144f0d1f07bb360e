import PortTunnel.Schema.Shape
import PortTunnel.Proofs.Json.Compact

/-!
# Shapes whose written form can be told apart

What a shape has to meet so that its values can be read back from their written form, and
what the written form looks like: its names, its numbers and how deep it nests.

* `Shape.sound`: no name occurs twice in a record, no case of a union has a field that is
  called like its tag, and null is written only where there is no value.
* `Shape.integral_write`, `Shape.depth_write`: integers of 64 bits only, and a depth that the
  shape bounds.
-/

namespace PortTunnel.Schema

open Json (Integral ItemsIntegral MembersIntegral itemsDepth membersDepth)
open Text (TextTable)

/-- Whether no value of a shape is written as null. -/
def Shape.neverNull : Shape → Bool
  | .any => false
  | .nullable _ => false
  | _ => true

mutual

/-- Values of any kind and lists of words carry no values of their own kind only, so they
are not sound. -/
def Shape.sound : Shape → Bool
  | .text _ => true
  | .flag => true
  | .word16 => true
  | .word32 => true
  | .choice _ _ => false
  | .any => false
  | .list s => s.sound
  | .table => true
  | .nullable s => s.neverNull && s.sound
  | .record _ fields => decide fields.names.Nodup && fields.sound
  | .union _ tag cases => decide cases.labels.Nodup && cases.sound tag

def Fields.sound : Fields → Bool
  | .nil => true
  | .required _ s rest => s.sound && rest.sound
  | .optional _ s rest => s.sound && rest.sound

def Cases.sound (tag : String) : Cases → Bool
  | .nil => true
  | .case _ _ fields rest =>
    decide (tag :: fields.names).Nodup && fields.sound && rest.sound tag

end

mutual

/-- How deep a written value nests at most. -/
def Shape.depth : Shape → Nat
  | .text _ => 0
  | .flag => 0
  | .word16 => 0
  | .word32 => 0
  | .choice _ _ => 0
  | .any => 0
  | .list s => s.depth + 1
  | .table => 1
  | .nullable s => s.depth
  | .record _ fields => fields.depth + 1
  | .union _ _ cases => cases.depth + 1

def Fields.depth : Fields → Nat
  | .nil => 0
  | .required _ s rest => max s.depth rest.depth
  | .optional _ s rest => max s.depth rest.depth

def Cases.depth : Cases → Nat
  | .nil => 0
  | .case _ _ fields rest => max fields.depth rest.depth

end

/-! ## Numbers -/

theorem itemsIntegral_map {α : Type} {f : α → Json} (h : ∀ a, (f a).Integral) (xs : List α) :
    ItemsIntegral (xs.map f) := by
  induction xs with
  | nil => trivial
  | cons x xs ih => exact ⟨h x, ih⟩

theorem membersIntegral_entries (es : List (String × String)) :
    MembersIntegral (es.map fun e => (e.1, .string e.2)) := by
  induction es with
  | nil => trivial
  | cons e es ih => exact ⟨trivial, ih⟩

theorem integral_nat {n : Nat} (h : n ≤ 0xFFFFFFFFFFFFFFFF) : (Json.nat n).Integral := by
  refine ⟨?_, ?_⟩ <;> omega

mutual

theorem Shape.integral_write : ∀ {s : Shape}, s.sound → ∀ v : s.Val, (s.write v).Integral
  | .text _, _, _ => trivial
  | .flag, _, _ => trivial
  | .word16, _, (v : UInt16) => integral_nat (Nat.le_of_lt (Nat.lt_trans v.toNat_lt (by decide)))
  | .word32, _, (v : UInt32) => integral_nat (Nat.le_of_lt (Nat.lt_trans v.toNat_lt (by decide)))
  | .choice _ _, hs, _ => absurd hs (by simp [Shape.sound])
  | .any, hs, _ => absurd hs (by simp [Shape.sound])
  | .list s, hs, (v : List s.Val) => by
    have hsound : s.sound := hs
    exact itemsIntegral_map (fun x => Shape.integral_write hsound x) v
  | .table, _, (v : TextTable) => membersIntegral_entries v.entries
  | .nullable s, hs, v => by
    simp only [Shape.sound, Bool.and_eq_true] at hs
    cases v with
    | none => trivial
    | some x => exact Shape.integral_write hs.2 x
  | .record _ fields, hs, v => by
    simp only [Shape.sound, Bool.and_eq_true] at hs
    exact Fields.integral_write hs.2 v
  | .union _ tag cases, hs, v => by
    simp only [Shape.sound, Bool.and_eq_true] at hs
    exact Cases.integral_write hs.2 v

theorem Fields.integral_write : ∀ {fs : Fields}, fs.sound → ∀ v : fs.Val,
    MembersIntegral (fs.write v)
  | .nil, _, _ => trivial
  | .required name s rest, hs, (x, vs) => by
    simp only [Fields.sound, Bool.and_eq_true] at hs
    exact ⟨Shape.integral_write hs.1 x, Fields.integral_write hs.2 vs⟩
  | .optional name s rest, hs, (x, vs) => by
    simp only [Fields.sound, Bool.and_eq_true] at hs
    cases x with
    | none => exact Fields.integral_write hs.2 vs
    | some x => exact ⟨Shape.integral_write hs.1 x, Fields.integral_write hs.2 vs⟩

theorem Cases.integral_write {tag : String} : ∀ {cs : Cases}, cs.sound tag → ∀ v : cs.Val,
    MembersIntegral (cs.write tag v)
  | .nil, _, v => nomatch v
  | .case label _ fields rest, hs, v => by
    simp only [Cases.sound, Bool.and_eq_true] at hs
    cases v with
    | inl x => exact ⟨trivial, Fields.integral_write hs.1.2 x⟩
    | inr y => exact Cases.integral_write hs.2 y

end

/-! ## Depth -/

theorem itemsDepth_map {α : Type} {f : α → Json} {d : Nat} (h : ∀ a, (f a).depth ≤ d)
    (xs : List α) : itemsDepth (xs.map f) ≤ d := by
  induction xs with
  | nil => exact Nat.zero_le d
  | cons x xs ih => exact Nat.max_le.mpr ⟨h x, ih⟩

theorem membersDepth_entries (es : List (String × String)) :
    membersDepth (es.map fun e => (e.1, .string e.2)) = 0 := by
  induction es with
  | nil => rfl
  | cons e es ih => simp [membersDepth, Json.depth, ih]

mutual

theorem Shape.depth_write : ∀ {s : Shape}, s.sound → ∀ v : s.Val, (s.write v).depth ≤ s.depth
  | .text _, _, _ => Nat.le_refl 0
  | .flag, _, _ => Nat.le_refl 0
  | .word16, _, _ => Nat.le_refl 0
  | .word32, _, _ => Nat.le_refl 0
  | .choice _ _, _, _ => Nat.le_refl 0
  | .any, hs, _ => absurd hs (by simp [Shape.sound])
  | .list s, hs, (v : List s.Val) => by
    have hsound : s.sound := hs
    exact Nat.succ_le_succ (itemsDepth_map (fun x => Shape.depth_write hsound x) v)
  | .table, _, (v : TextTable) =>
    Nat.succ_le_succ (Nat.le_of_eq (membersDepth_entries v.entries))
  | .nullable s, hs, v => by
    simp only [Shape.sound, Bool.and_eq_true] at hs
    cases v with
    | none => exact Nat.zero_le _
    | some x => exact Shape.depth_write hs.2 x
  | .record _ fields, hs, v => by
    simp only [Shape.sound, Bool.and_eq_true] at hs
    exact Nat.succ_le_succ (Fields.depth_write hs.2 v)
  | .union _ tag cases, hs, v => by
    simp only [Shape.sound, Bool.and_eq_true] at hs
    exact Nat.succ_le_succ (Cases.depth_write hs.2 v)

theorem Fields.depth_write : ∀ {fs : Fields}, fs.sound → ∀ v : fs.Val,
    membersDepth (fs.write v) ≤ fs.depth
  | .nil, _, _ => Nat.le_refl 0
  | .required name s rest, hs, (x, vs) => by
    simp only [Fields.sound, Bool.and_eq_true] at hs
    have hx := Shape.depth_write hs.1 x
    have hvs := Fields.depth_write hs.2 vs
    simp only [Fields.write, membersDepth, Fields.depth]
    omega
  | .optional name s rest, hs, (x, vs) => by
    simp only [Fields.sound, Bool.and_eq_true] at hs
    have hvs := Fields.depth_write hs.2 vs
    cases x with
    | none =>
      simp only [Fields.write, Fields.depth]
      omega
    | some x =>
      have hx := Shape.depth_write hs.1 x
      simp only [Fields.write, membersDepth, Fields.depth]
      omega

theorem Cases.depth_write {tag : String} : ∀ {cs : Cases}, cs.sound tag → ∀ v : cs.Val,
    membersDepth (cs.write tag v) ≤ cs.depth
  | .nil, _, v => nomatch v
  | .case label _ fields rest, hs, v => by
    simp only [Cases.sound, Bool.and_eq_true] at hs
    cases v with
    | inl x =>
      have hx := Fields.depth_write hs.1.2 x
      simp only [Cases.write, membersDepth, Json.depth, Cases.depth]
      omega
    | inr y =>
      have hy := Cases.depth_write hs.2 y
      simp only [Cases.write, Cases.depth]
      omega

end

/-! ## Names -/

/-- The written names stand in the order of the fields. -/
theorem Fields.sublist_names : ∀ (fs : Fields) (v : fs.Val),
    ((fs.write v).map (·.1)).Sublist fs.names
  | .nil, _ => .slnil
  | .required name _ rest, (_, vs) => .cons_cons name (rest.sublist_names vs)
  | .optional name _ rest, (none, vs) => .cons name (rest.sublist_names vs)
  | .optional name _ rest, (some _, vs) => .cons_cons name (rest.sublist_names vs)

theorem Fields.mem_names {fs : Fields} {v : fs.Val} {m : String × Json} (h : m ∈ fs.write v) :
    m.1 ∈ fs.names :=
  (fs.sublist_names v).subset (List.mem_map_of_mem h)

end PortTunnel.Schema
