import PortTunnel.Json.Printer
import PortTunnel.Json.Reader
import PortTunnel.Proofs.Json.Node

/-!
# Scalars read back

The reader makes of the text of a string, a number or a word a node that stands for this value, and
it stops right behind the text. Numbers are integers of 64 bits here, as in every record.

* `Json.Integral`: values whose numbers are such integers.
* `readString_quoteChars`: a string and its escapes.
* `readsScalar_int`: a number, before anything that cannot belong to it.
* `scalar_head`: how the text of a scalar begins.
-/

namespace PortTunnel.Json

mutual

/-- Every number is an integer of 64 bits, with or without sign. -/
def Integral : Json → Prop
  | .null => True
  | .bool _ => True
  | .number (.int n) => -0x8000000000000000 ≤ n ∧ n ≤ 0xFFFFFFFFFFFFFFFF
  | .number (.real _) => False
  | .string _ => True
  | .array xs => ItemsIntegral xs
  | .object ms => MembersIntegral ms

def ItemsIntegral : List Json → Prop
  | [] => True
  | x :: xs => Integral x ∧ ItemsIntegral xs

def MembersIntegral : List (String × Json) → Prop
  | [] => True
  | m :: ms => Integral m.2 ∧ MembersIntegral ms

end

/-- A text that does not go on with a number before it. -/
def EndsNumber (rest : List Char) : Prop :=
  ∀ c cs, rest = c :: cs → c.isDigit = false ∧ c ≠ '.' ∧ c ≠ 'e' ∧ c ≠ 'E'

theorem endsNumber_nil : EndsNumber [] := by
  intro c cs h
  cases h

theorem endsNumber_cons {c : Char} {cs : List Char}
    (h : c.isDigit = false ∧ c ≠ '.' ∧ c ≠ 'e' ∧ c ≠ 'E') : EndsNumber (c :: cs) := by
  intro d ds heq
  cases heq
  exact h

/-! ## Digits -/

theorem le_ofDigitChars (ds : List Char) (n : Nat) : n ≤ Nat.ofDigitChars 10 ds n := by
  induction ds generalizing n with
  | nil => simp
  | cons d ds ih =>
    rw [Nat.ofDigitChars_cons]
    exact Nat.le_trans (by omega) (ih _)

/-- All digits are kept as long as the number fits. -/
theorem takeSignificand_eq {ds : List Char} {n : Nat}
    (h : Nat.ofDigitChars 10 ds n ≤ maxSignificand) :
    takeSignificand n ds = (Nat.ofDigitChars 10 ds n, []) := by
  induction ds generalizing n with
  | nil => rfl
  | cons d ds ih =>
    rw [Nat.ofDigitChars_cons, Nat.mul_comm] at h ⊢
    have hfits : n * 10 + (d.toNat - 48) ≤ maxSignificand :=
      Nat.le_trans (le_ofDigitChars ds _) h
    rw [takeSignificand, if_pos hfits]
    exact ih h

theorem isDigit_toDigits {n : Nat} {c : Char} (h : c ∈ Nat.toDigits 10 n) : c.isDigit = true :=
  Nat.isDigit_of_mem_toDigits (by omega) (Nat.le_refl 10) h

/-- Only zero itself begins with the digit zero. -/
theorem toDigits_head {n : Nat} (hn : 0 < n) : (Nat.toDigits 10 n).head? ≠ some '0' := by
  induction n using Nat.strongRecOn with
  | ind n ih =>
    rw [Nat.toDigits_eq_if (by omega)]
    split
    · simp
      omega
    · have hlt := ih (n / 10) (by omega) (by omega)
      have hne : Nat.toDigits 10 (n / 10) ≠ [] := Nat.toDigits_ne_nil
      obtain ⟨d, ds, hcons⟩ := List.exists_cons_of_ne_nil hne
      rw [hcons] at hlt ⊢
      exact hlt

theorem takeWhile_digits {ds rest : List Char} (hds : ∀ c ∈ ds, c.isDigit = true)
    (hrest : EndsNumber rest) : (ds ++ rest).takeWhile Char.isDigit = ds := by
  rw [List.takeWhile_append_of_pos hds]
  cases rest with
  | nil => simp
  | cons c cs => simp [(hrest c cs rfl).1]

/-- Behind its digits a whole number has no further parts. -/
theorem readFraction_none {rest : List Char} (hrest : EndsNumber rest) (start pos : Nat)
    (negative : Bool) (whole : List Char) :
    readFraction start negative whole rest pos =
      .read (.number start pos ((NumberText.mk negative whole none none).value pos pos))
        ⟨rest, pos⟩ := by
  cases rest with
  | nil => rfl
  | cons c cs =>
    obtain ⟨-, hdot, he, hE⟩ := hrest c cs rfl
    unfold readFraction
    split
    · rename_i heq
      cases heq
      exact absurd rfl hdot
    · rename_i heq
      cases heq
      exact absurd rfl he
    · rename_i heq
      cases heq
      exact absurd rfl hE
    · rfl

theorem readNumber_toDigits {rest : List Char} (hrest : EndsNumber rest) (start pos n : Nat)
    (negative : Bool) :
    readNumber start negative (Nat.toDigits 10 n ++ rest) pos =
      readFraction start negative (Nat.toDigits 10 n) rest
        (pos + (Nat.toDigits 10 n).length) := by
  have htake : (Nat.toDigits 10 n ++ rest).takeWhile Char.isDigit = Nat.toDigits 10 n :=
    takeWhile_digits (fun c hc => isDigit_toDigits hc) hrest
  have hdrop : (Nat.toDigits 10 n ++ rest).drop (Nat.toDigits 10 n).length = rest := by simp
  unfold readNumber
  simp only [htake]
  split
  · rename_i hnil
    exact absurd hnil Nat.toDigits_ne_nil
  · rename_i c cs hzero
    rcases Nat.eq_zero_or_pos n with rfl | hn
    · simp at hzero
    · exact absurd (by rw [hzero]; rfl) (toDigits_head hn)
  · rw [hdrop]

theorem toDigits_cons (n : Nat) : ∃ d ds, Nat.toDigits 10 n = d :: ds ∧ d.isDigit = true := by
  obtain ⟨d, ds, hcons⟩ := List.exists_cons_of_ne_nil (Nat.toDigits_ne_nil (n := n) (b := 10))
  refine ⟨d, ds, hcons, isDigit_toDigits (n := n) ?_⟩
  rw [hcons]
  exact List.mem_cons_self

/-- A natural number of 64 bits. -/
theorem readNumber_natural {rest : List Char} (hrest : EndsNumber rest) (start : Nat) {n : Nat}
    (hn : n ≤ maxSignificand) :
    ∃ stop, readNumber start false (Nat.toDigits 10 n ++ rest) start =
      .read (.number start stop (.ok (.int n))) ⟨rest, stop⟩ := by
  have hsignificand : takeSignificand 0 (Nat.toDigits 10 n) = (n, []) := by
    rw [takeSignificand_eq (by simpa using hn), Nat.ofDigitChars_ten_toDigits]
  refine ⟨start + (Nat.toDigits 10 n).length, ?_⟩
  rw [readNumber_toDigits hrest, readFraction_none hrest]
  simp [NumberText.value, hsignificand]

/-- A negative number of 64 bits, behind its sign. -/
theorem readNumber_negative {rest : List Char} (hrest : EndsNumber rest) (start : Nat) {n : Nat}
    (hpos : 0 < n) (hn : n ≤ 0x8000000000000000) :
    ∃ stop, readNumber start true (Nat.toDigits 10 n ++ rest) (start + 1) =
      .read (.number start stop (.ok (.int (-n)))) ⟨rest, stop⟩ := by
  have hfits : n ≤ maxSignificand := by
    unfold maxSignificand
    simp only [Nat.pow_eq]
    omega
  have hsignificand : takeSignificand 0 (Nat.toDigits 10 n) = (n, []) := by
    rw [takeSignificand_eq (by simpa using hfits), Nat.ofDigitChars_ten_toDigits]
  have hne : n ≠ 0 := by omega
  have hlimit : n ≤ 9223372036854775808 := hn
  refine ⟨start + 1 + (Nat.toDigits 10 n).length, ?_⟩
  rw [readNumber_toDigits hrest, readFraction_none hrest]
  simp [NumberText.value, hsignificand, hne, hlimit]

/-! ## Strings -/

theorem settle_of_noLead {p : Partial} (h : p.lead = none) (cs : List Char) (pos : Nat) :
    p.settle cs pos = p := by
  simp [Partial.settle, h]

theorem hex4?_control {n : Nat} (h : n < 0x20) :
    hex4? '0' '0' (hexDigit (n / 16)) (hexDigit (n % 16)) = some n := by
  have hall : ∀ n < 0x20, hex4? '0' '0' (hexDigit (n / 16)) (hexDigit (n % 16)) = some n := by
    decide
  exact hall n h

theorem readStringFrom_short {e c : Char} (hu : e ≠ 'u') (h : shortEscape? e = some c)
    (acc : List Char) (pos : Nat) (rest : List Char) :
    readStringFrom ⟨acc, none, none⟩ pos ('\\' :: e :: rest) =
      readStringFrom ⟨c :: acc, none, none⟩ (pos + 2) rest := by
  rw [readStringFrom]
  · simp only [settle_of_noLead, h, Partial.push]
  · simpa using hu

theorem readStringFrom_control {c : Char} (h : c.toNat < 0x20) (acc : List Char) (pos : Nat)
    (rest : List Char) :
    readStringFrom ⟨acc, none, none⟩ pos
        ('\\' :: 'u' :: '0' :: '0' :: hexDigit (c.toNat / 16) :: hexDigit (c.toNat % 16) :: rest) =
      readStringFrom ⟨c :: acc, none, none⟩ (pos + 6) rest := by
  have hunit : Partial.pushUnit ⟨acc, none, none⟩ c.toNat (pos + 6) = ⟨c :: acc, none, none⟩ := by
    have h1 : ¬ 0xDC00 ≤ c.toNat := by omega
    have h2 : ¬ 0xD800 ≤ c.toNat := by omega
    simp [Partial.pushUnit, Partial.push, h1, h2]
  rw [readStringFrom]
  simp only [settle_of_noLead, hex4?_control h, hunit]

theorem readStringFrom_plain {c : Char} (hquote : c ≠ '"') (hslash : c ≠ '\\')
    (h : ¬ c.toNat < 0x20) (acc : List Char) (pos : Nat) (rest : List Char) :
    readStringFrom ⟨acc, none, none⟩ pos (c :: rest) =
      readStringFrom ⟨c :: acc, none, none⟩ (pos + c.utf8Size) rest := by
  rw [readStringFrom]
  · simp only [settle_of_noLead, h, if_false, Partial.push]
  · simpa using hquote
  · simpa using hslash

/-- One character, whether it is escaped or not. -/
theorem readStringFrom_escape (c : Char) (acc : List Char) (pos : Nat) (rest : List Char) :
    ∃ next, readStringFrom ⟨acc, none, none⟩ pos (escape c ++ rest) =
      readStringFrom ⟨c :: acc, none, none⟩ next rest := by
  unfold escape
  split
  · subst_vars
    exact ⟨_, readStringFrom_short (by decide) (by decide) acc pos rest⟩
  split
  · subst_vars
    exact ⟨_, readStringFrom_short (by decide) (by decide) acc pos rest⟩
  split
  · subst_vars
    exact ⟨_, readStringFrom_short (by decide) (by decide) acc pos rest⟩
  split
  · subst_vars
    exact ⟨_, readStringFrom_short (by decide) (by decide) acc pos rest⟩
  split
  · subst_vars
    exact ⟨_, readStringFrom_short (by decide) (by decide) acc pos rest⟩
  split
  · subst_vars
    exact ⟨_, readStringFrom_short (by decide) (by decide) acc pos rest⟩
  split
  · subst_vars
    exact ⟨_, readStringFrom_short (by decide) (by decide) acc pos rest⟩
  split
  · exact ⟨_, readStringFrom_control ‹_› acc pos rest⟩
  · exact ⟨_, readStringFrom_plain ‹_› ‹_› ‹_› acc pos rest⟩

theorem readStringFrom_flatMap (cs : List Char) (acc : List Char) (pos : Nat) (rest : List Char) :
    ∃ next, readStringFrom ⟨acc, none, none⟩ pos (cs.flatMap escape ++ '"' :: rest) =
      .read (.ok (String.ofList (acc.reverse ++ cs))) ⟨rest, next⟩ := by
  induction cs generalizing acc pos with
  | nil => exact ⟨pos + 1, by simp [readStringFrom, settle_of_noLead, Partial.result]⟩
  | cons c cs ih =>
    obtain ⟨after, hc⟩ := readStringFrom_escape c acc pos (cs.flatMap escape ++ '"' :: rest)
    obtain ⟨next, hcs⟩ := ih (c :: acc) after
    refine ⟨next, ?_⟩
    rw [List.flatMap_cons, List.append_assoc, hc, hcs]
    simp

/-- A string, behind its opening quote. -/
theorem readString_quoteChars (s : String) (pos : Nat) (rest : List Char) :
    ∃ next, readString (s.toList.flatMap escape ++ '"' :: rest) pos =
      .read (.ok s) ⟨rest, next⟩ := by
  obtain ⟨next, h⟩ := readStringFrom_flatMap s.toList [] pos rest
  refine ⟨next, ?_⟩
  rw [readString, h]
  simp

/-! ## Scalars -/

/-- A scalar of the value `j`, behind which `rest` is left. -/
def ReadsScalar (start : Nat) (cs rest : List Char) (j : Json) : Prop :=
  ∃ node next, readScalar start cs = .read node ⟨rest, next⟩ ∧ node.value? = some j

theorem readsScalar_null (start : Nat) (rest : List Char) :
    ReadsScalar start (compactChars .null ++ rest) rest .null :=
  ⟨.null start (start + 4), start + 4, rfl, rfl⟩

theorem readsScalar_bool (start : Nat) (b : Bool) (rest : List Char) :
    ReadsScalar start (compactChars (.bool b) ++ rest) rest (.bool b) := by
  cases b with
  | true => exact ⟨.bool start (start + 4) true, start + 4, rfl, rfl⟩
  | false => exact ⟨.bool start (start + 5) false, start + 5, rfl, rfl⟩

theorem readsScalar_string (start : Nat) (s : String) (rest : List Char) :
    ReadsScalar start (compactChars (.string s) ++ rest) rest (.string s) := by
  obtain ⟨next, h⟩ := readString_quoteChars s (start + 1) rest
  refine ⟨.string start next (.ok s), next, ?_, rfl⟩
  simp [compactChars, quoteChars, readScalar, h]

theorem readScalar_digit {c : Char} (h : c.isDigit = true) (start : Nat) (cs : List Char) :
    readScalar start (c :: cs) = readNumber start false (c :: cs) start := by
  have hne : ∀ d : Char, d.isDigit = false → c ≠ d := by
    rintro d hd rfl
    rw [h] at hd
    cases hd
  unfold readScalar
  split
  · rename_i heq
    cases heq
  · rename_i heq
    cases heq
    exact absurd rfl (hne 'n' (by decide))
  · rename_i heq
    cases heq
    exact absurd rfl (hne 't' (by decide))
  · rename_i heq
    cases heq
    exact absurd rfl (hne 'f' (by decide))
  · rename_i heq
    cases heq
    exact absurd rfl (hne '-' (by decide))
  · rename_i heq
    cases heq
    exact absurd rfl (hne '"' (by decide))
  · rename_i heq
    cases heq
    rw [if_pos h]

theorem text_natural {i : Int} (h : 0 ≤ i) :
    (Number.int i).text.toList = Nat.toDigits 10 i.toNat := by
  simp [Number.text, Int.repr_eq_if, h]

theorem text_negative {i : Int} (h : ¬ 0 ≤ i) :
    (Number.int i).text.toList = '-' :: Nat.toDigits 10 (-i).toNat := by
  simp [Number.text, Int.repr_eq_if, h]

theorem readsScalar_int {rest : List Char} (hrest : EndsNumber rest) (start : Nat) {i : Int}
    (hlow : -0x8000000000000000 ≤ i) (hhigh : i ≤ 0xFFFFFFFFFFFFFFFF) :
    ReadsScalar start (compactChars (.number (.int i)) ++ rest) rest (.number (.int i)) := by
  rw [compactChars]
  by_cases hi : 0 ≤ i
  · have hfits : i.toNat ≤ maxSignificand := by
      unfold maxSignificand
      simp only [Nat.pow_eq]
      omega
    obtain ⟨d, ds, hcons, hdigit⟩ := toDigits_cons i.toNat
    obtain ⟨stop, hread⟩ := readNumber_natural hrest start hfits
    refine ⟨.number start stop (.ok (.int i)), stop, ?_, rfl⟩
    rw [text_natural hi]
    rw [hcons, List.cons_append] at hread ⊢
    rw [readScalar_digit hdigit, hread, Int.toNat_of_nonneg hi]
  · obtain ⟨stop, hread⟩ :=
      readNumber_negative hrest start (show 0 < (-i).toNat by omega) (by omega)
    have hback : -((-i).toNat : Int) = i := by omega
    refine ⟨.number start stop (.ok (.int i)), stop, ?_, rfl⟩
    rw [text_negative hi, List.cons_append, readScalar, hread, hback]

/-! ## The first character of a value -/

/-- Whether a character begins a value that is neither an array nor an object. -/
def beginsScalar (c : Char) : Bool :=
  c = 'n' || c = 't' || c = 'f' || c = '"' || c = '-' || c.isDigit

theorem beginsScalar_spec {c : Char} (h : beginsScalar c) :
    isSpace c = false ∧ c ≠ '[' ∧ c ≠ '\x7b' ∧ c ≠ ']' := by
  have hne : ∀ d : Char, beginsScalar d = false → c ≠ d := by
    rintro d hd rfl
    rw [h] at hd
    cases hd
  refine ⟨?_, hne _ (by decide), hne _ (by decide), hne _ (by decide)⟩
  have h1 := hne ' ' (by decide)
  have h2 := hne '\n' (by decide)
  have h3 := hne '\t' (by decide)
  have h4 := hne '\r' (by decide)
  simp [isSpace, h1, h2, h3, h4]

theorem scalar_head {j : Json} (hj : j.Integral) (harray : ∀ xs, j ≠ .array xs)
    (hobject : ∀ ms, j ≠ .object ms) :
    ∃ c cs, compactChars j = c :: cs ∧ beginsScalar c := by
  cases j with
  | null => exact ⟨_, _, rfl, by decide⟩
  | bool b => cases b <;> exact ⟨_, _, rfl, by decide⟩
  | number n =>
    cases n with
    | real bits => exact absurd hj id
    | int i =>
      rw [compactChars]
      by_cases hi : 0 ≤ i
      · obtain ⟨d, ds, hcons, hdigit⟩ := toDigits_cons i.toNat
        exact ⟨d, ds, by rw [text_natural hi, hcons], by simp [beginsScalar, hdigit]⟩
      · exact ⟨_, _, text_negative hi, by decide⟩
  | string s => exact ⟨_, _, rfl, by decide⟩
  | array xs => exact absurd rfl (harray xs)
  | object ms => exact absurd rfl (hobject ms)

end PortTunnel.Json
