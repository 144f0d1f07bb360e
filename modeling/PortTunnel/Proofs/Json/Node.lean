import PortTunnel.Json.Node

/-!
# Trees that stand for a value

A tree that has a value holds no fault, so that one who reads it fails at most because it
nests too deep.

* `Json.depth`: how deep arrays and objects nest.
* `Node.readFault?_eq_none`, `Node.skipFault?_eq_none`: one who reads a tree that has a value, or
  passes over it, meets no fault.
* `Node.eq_string`, ...: the tree of a value, by the kind of the value.
-/

namespace PortTunnel.Json

/-! ## Nesting -/

mutual

/-- How deep arrays and objects nest in a value. -/
def depth : Json → Nat
  | .null => 0
  | .bool _ => 0
  | .number _ => 0
  | .string _ => 0
  | .array xs => itemsDepth xs + 1
  | .object ms => membersDepth ms + 1

def itemsDepth : List Json → Nat
  | [] => 0
  | x :: xs => max (depth x) (itemsDepth xs)

def membersDepth : List (String × Json) → Nat
  | [] => 0
  | m :: ms => max (depth m.2) (membersDepth ms)

end

/-! ## Trees by the kind of their value -/

theorem toOption_eq_some_iff {α : Type} {x : Except Fault α} {a : α} :
    x.toOption = some a ↔ x = .ok a := by
  cases x <;> simp [Except.toOption]

theorem Node.eq_null {node : Node} (h : node.value? = some .null) :
    ∃ start stop, node = .null start stop := by
  cases node <;> simp [value?] at h ⊢

theorem Node.eq_bool {node : Node} {b : Bool} (h : node.value? = some (.bool b)) :
    ∃ start stop, node = .bool start stop b := by
  cases node <;> simp [value?] at h ⊢
  exact h

theorem Node.eq_number {node : Node} {n : Number} (h : node.value? = some (.number n)) :
    ∃ start stop, node = .number start stop (.ok n) := by
  cases node <;> simp [value?, toOption_eq_some_iff] at h ⊢
  exact h

theorem Node.eq_string {node : Node} {s : String} (h : node.value? = some (.string s)) :
    ∃ start stop, node = .string start stop (.ok s) := by
  cases node <;> simp [value?, toOption_eq_some_iff] at h ⊢
  exact h

theorem Node.eq_array {node : Node} {xs : List Json} (h : node.value? = some (.array xs)) :
    ∃ start items, node = .array start items ∧ items.values? = some xs := by
  cases node <;> simp [value?] at h
  exact ⟨_, _, rfl, h⟩

theorem Node.eq_object {node : Node} {ms : List (String × Json)}
    (h : node.value? = some (.object ms)) :
    ∃ start members, node = .object start members ∧ members.values? = some ms := by
  cases node <;> simp [value?] at h
  exact ⟨_, _, rfl, h⟩

theorem Items.eq_nil {items : Items} (h : items.values? = some []) :
    ∃ stop, items = .closed stop := by
  cases items <;> simp [values?, Option.bind_eq_some_iff] at h ⊢

theorem Items.eq_cons {items : Items} {x : Json} {xs : List Json}
    (h : items.values? = some (x :: xs)) :
    ∃ node after rest, items = .item node after rest ∧ node.value? = some x ∧
      rest.values? = some xs := by
  cases items <;> simp [values?, Option.bind_eq_some_iff] at h
  exact ⟨_, _, _, rfl, h⟩

theorem Members.eq_nil {members : Members} (h : members.values? = some []) :
    ∃ stop, members = .closed stop := by
  cases members <;> simp [values?, Option.bind_eq_some_iff] at h ⊢

theorem Members.eq_cons {members : Members} {m : String × Json} {ms : List (String × Json)}
    (h : members.values? = some (m :: ms)) :
    ∃ nameAfter value after rest, members = .member (.ok m.1) nameAfter value after rest ∧
      value.value? = some m.2 ∧ rest.values? = some ms := by
  cases members with
  | closed stop => simp [values?] at h
  | broken reading skipping => simp [values?] at h
  | member name nameAfter value after rest =>
    simp only [values?, Option.bind_eq_some_iff, bind, toOption_eq_some_iff] at h
    obtain ⟨k, rfl, v, hv, ws, hws, heq⟩ := h
    cases heq
    exact ⟨nameAfter, value, after, rest, rfl, hv, hws⟩

/-! ## Faults of a tree that has a value -/

mutual

theorem Node.readFault?_eq_none {room : Nat} :
    ∀ {node : Node} {j : Json}, node.value? = some j → j.depth < room → node.readFault? room = none
  | .null _ _, _, _, _ => rfl
  | .bool _ _ _, _, _, _ => rfl
  | .number _ _ n, j, h, _ => by
    cases n with
    | ok n => rfl
    | error f => simp [Node.value?, Except.toOption] at h
  | .string _ _ s, j, h, _ => by
    cases s with
    | ok s => rfl
    | error f => simp [Node.value?, Except.toOption] at h
  | .array start items, j, h, hroom => by
    obtain ⟨xs, hxs, rfl⟩ := Option.map_eq_some_iff.mp h
    have hd : itemsDepth xs + 1 < room := hroom
    have hnot : ¬ room ≤ 1 := by omega
    have hitems := Items.readFault?_eq_none hxs (show itemsDepth xs < room - 1 by omega)
    simp [Node.readFault?, hnot, hitems]
  | .object start members, j, h, hroom => by
    obtain ⟨ms, hms, rfl⟩ := Option.map_eq_some_iff.mp h
    have hd : membersDepth ms + 1 < room := hroom
    have hnot : ¬ room ≤ 1 := by omega
    have hmembers := Members.readFault?_eq_none hms (show membersDepth ms < room - 1 by omega)
    simp [Node.readFault?, hnot, hmembers]
  | .broken _ _ _, _, h, _ => by simp [Node.value?] at h

theorem Items.readFault?_eq_none {room : Nat} :
    ∀ {items : Items} {xs : List Json}, items.values? = some xs → itemsDepth xs < room →
      items.readFault? room = none
  | .closed _, _, _, _ => rfl
  | .broken _ _ _, _, h, _ => by simp [Items.values?] at h
  | .item node after rest, xs, h, hroom => by
    simp only [Items.values?, bind, Option.bind_eq_some_iff] at h
    obtain ⟨y, hy, ys, hys, heq⟩ := h
    cases heq
    have hd : max y.depth (itemsDepth ys) < room := hroom
    rw [Items.readFault?, Node.readFault?_eq_none hy (by omega),
      Items.readFault?_eq_none hys (by omega)]
    rfl

theorem Members.readFault?_eq_none {room : Nat} :
    ∀ {members : Members} {ms : List (String × Json)}, members.values? = some ms →
      membersDepth ms < room → members.readFault? room = none
  | .closed _, _, _, _ => rfl
  | .broken _ _, _, h, _ => by simp [Members.values?] at h
  | .member name nameAfter value after rest, ms, h, hroom => by
    simp only [Members.values?, bind, Option.bind_eq_some_iff, toOption_eq_some_iff] at h
    obtain ⟨k, rfl, y, hy, ys, hys, heq⟩ := h
    cases heq
    have hd : max y.depth (membersDepth ys) < room := hroom
    rw [Members.readFault?, Node.readFault?_eq_none hy (by omega),
      Members.readFault?_eq_none hys (by omega)]
    rfl

end

mutual

theorem Node.skipFault?_eq_none : ∀ {node : Node} {j : Json}, node.value? = some j →
    node.skipFault? = none
  | .null _ _, _, _ => rfl
  | .bool _ _ _, _, _ => rfl
  | .number _ _ _, _, _ => rfl
  | .string _ _ _, _, _ => rfl
  | .array start items, j, h => by
    obtain ⟨xs, hxs, rfl⟩ := Option.map_eq_some_iff.mp h
    exact Items.skipFault?_eq_none hxs
  | .object start members, j, h => by
    obtain ⟨ms, hms, rfl⟩ := Option.map_eq_some_iff.mp h
    exact Members.skipFault?_eq_none hms
  | .broken _ _ _, _, h => by simp [Node.value?] at h

theorem Items.skipFault?_eq_none : ∀ {items : Items} {xs : List Json}, items.values? = some xs →
    items.skipFault? = none
  | .closed _, _, _ => rfl
  | .broken _ _ _, _, h => by simp [Items.values?] at h
  | .item node after rest, xs, h => by
    simp only [Items.values?, bind, Option.bind_eq_some_iff] at h
    obtain ⟨y, hy, ys, hys, -⟩ := h
    rw [Items.skipFault?, Node.skipFault?_eq_none hy, Items.skipFault?_eq_none hys]
    rfl

theorem Members.skipFault?_eq_none : ∀ {members : Members} {ms : List (String × Json)},
    members.values? = some ms → members.skipFault? = none
  | .closed _, _, _ => rfl
  | .broken _ _, _, h => by simp [Members.values?] at h
  | .member name nameAfter value after rest, ms, h => by
    simp only [Members.values?, bind, Option.bind_eq_some_iff] at h
    obtain ⟨k, -, y, hy, ys, hys, -⟩ := h
    rw [Members.skipFault?, Node.skipFault?_eq_none hy, Members.skipFault?_eq_none hys]
    rfl

end

end PortTunnel.Json
