import PortTunnel.Proofs.Json.Layout

/-!
# Compact text reads back

What is written without blanks is read as the value that it was written for.

* `ofChars_compactChars`, `parse_compactChars`: a whole document.
* `nul_not_mem_compactChars`: no such text holds the one character that a system does not pass on.
-/

namespace PortTunnel.Json

/-! ## Documents -/

theorem ofChars_compactChars {j : Json} (hj : j.Integral) :
    ∃ root, Document.ofChars (compactChars j) = ⟨root, none⟩ ∧ root.value? = some j := by
  have hread := Layout.none.ofChars_chars hj 0 blanks_nil
  rwa [Layout.chars_none, List.append_nil] at hread

theorem parse_compactChars {j : Json} (hj : j.Integral) (hdepth : j.depth < depthLimit) :
    parse (compactChars j) = .ok j.normal := by
  obtain ⟨root, hdocument, hvalue⟩ := ofChars_compactChars hj
  exact parse_of_value hdocument hvalue hdepth

/-! ## The character zero -/

theorem hexDigit_ne_nul : ∀ n < 16, hexDigit n ≠ '\x00' := by decide

/-- Nothing is written that a system could not pass on. -/
theorem nul_not_mem_escape (c : Char) : '\x00' ∉ escape c := by
  unfold escape
  repeat' split
  all_goals try decide
  next hcontrol =>
    have hhigh := hexDigit_ne_nul (c.toNat / 16) (by omega)
    have hlow := hexDigit_ne_nul (c.toNat % 16) (by omega)
    simp [hhigh.symm, hlow.symm]
  next hplain =>
    rw [List.mem_singleton]
    rintro rfl
    exact hplain (by decide)

theorem nul_not_mem_quoteChars (cs : List Char) : '\x00' ∉ quoteChars cs := by
  have hescaped : '\x00' ∉ cs.flatMap escape := by
    intro h
    obtain ⟨c, -, hc⟩ := List.mem_flatMap.mp h
    exact nul_not_mem_escape c hc
  simp [quoteChars, hescaped]

theorem nul_not_mem_number {i : Int} : '\x00' ∉ (Number.int i).text.toList := by
  have hdigits : ∀ n : Nat, '\x00' ∉ Nat.toDigits 10 n := fun n h => by
    have := isDigit_toDigits h
    exact absurd this (by decide)
  by_cases hi : 0 ≤ i
  · rw [text_natural hi]
    exact hdigits _
  · rw [text_negative hi]
    simpa using hdigits _

mutual

theorem nul_not_mem_compactChars : ∀ {j : Json}, j.Integral → '\x00' ∉ compactChars j
  | .null, _ => by decide
  | .bool true, _ => by decide
  | .bool false, _ => by decide
  | .number (.int _), _ => nul_not_mem_number
  | .number (.real _), hj => absurd hj id
  | .string s, _ => nul_not_mem_quoteChars s.toList
  | .array [], _ => by decide
  | .array (x :: xs), hj => by
    rw [compactChars]
    simpa using ⟨nul_not_mem_compactChars hj.1, nul_not_mem_compactItems hj.2⟩
  | .object [], _ => by decide
  | .object (m :: ms), hj => by
    rw [compactChars]
    simpa using ⟨nul_not_mem_quoteChars _, nul_not_mem_compactChars hj.1, nul_not_mem_compactMembers hj.2⟩

theorem nul_not_mem_compactItems : ∀ {xs : List Json}, ItemsIntegral xs → '\x00' ∉ compactItems xs
  | [], _ => by decide
  | x :: xs, hj => by
    rw [compactItems]
    simpa using ⟨nul_not_mem_compactChars hj.1, nul_not_mem_compactItems hj.2⟩

theorem nul_not_mem_compactMembers : ∀ {ms : List (String × Json)}, MembersIntegral ms →
    '\x00' ∉ compactMembers ms
  | [], _ => by decide
  | m :: ms, hj => by
    rw [compactMembers]
    simpa using ⟨nul_not_mem_quoteChars _, nul_not_mem_compactChars hj.1, nul_not_mem_compactMembers hj.2⟩

end

end PortTunnel.Json
