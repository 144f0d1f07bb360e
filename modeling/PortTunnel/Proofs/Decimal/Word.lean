import PortTunnel.Decimal.Word
import PortTunnel.Proofs.Json.Scalar

/-!
# Which texts are numbers

A number is read from left to right, and reading stops at the first character that does not fit, so a
text is refused for its digits only as long as those before them are within bounds.

* `Numeral`: a text that stands for a number; `Overruns`: one that begins with digits out of bounds.
* `parse_eq_ok_iff`, `parse_eq_error_iff`: exactly which texts are read, and which fault is found in
  the others.
* `parse_toString`: a number that was written is read again.
-/

namespace PortTunnel.Decimal.Word

/-- Digits, with or without a plus sign before them. -/
def Signed (cs digits : List Char) : Prop := cs = digits ∨ cs = '+' :: digits

/-- One digit or more that stand for `n`. -/
def Numeral (cs : List Char) (n : Nat) : Prop :=
  ∃ digits, Signed cs digits ∧ digits ≠ [] ∧ (∀ d ∈ digits, d.isDigit) ∧
    Nat.ofDigitChars 10 digits 0 = n

/-- Digits at the beginning that stand for a number out of bounds already. -/
def Overruns (bound : Nat) (cs : List Char) : Prop :=
  ∃ digits rest, Signed cs (digits ++ rest) ∧ (∀ d ∈ digits, d.isDigit) ∧
    bound ≤ Nat.ofDigitChars 10 digits 0

/-- What is wrong with a text that is no number below a bound. -/
inductive Misread (bound : Nat) (cs : List Char) : Fault → Prop where
  | empty (hnone : cs = []) : Misread bound cs .empty
  | tooLarge (hover : Overruns bound cs) : Misread bound cs .tooLarge
  | invalidDigit (hsome : cs ≠ []) (hfits : ¬ Overruns bound cs) (hno : ∀ n, ¬ Numeral cs n) :
    Misread bound cs .invalidDigit

/-! ## Digits -/

variable {bound n : Nat} {cs : List Char}

theorem ofDigitChars_cons (d : Char) (ds : List Char) (n : Nat) :
    Nat.ofDigitChars 10 (d :: ds) n = Nat.ofDigitChars 10 ds (n * 10 + (d.toNat - 48)) := by
  rw [Nat.ofDigitChars_cons, Nat.mul_comm]
  rfl

theorem parseDigits_eq_ok_iff {m : Nat} (hm : m < bound) :
    parseDigits bound m cs = .ok n ↔
      (∀ d ∈ cs, d.isDigit) ∧ Nat.ofDigitChars 10 cs m = n ∧ n < bound := by
  induction cs generalizing m with
  | nil =>
    constructor
    · rintro ⟨⟩
      exact ⟨nofun, rfl, hm⟩
    · rintro ⟨-, rfl, -⟩
      rfl
  | cons d ds ih =>
    rw [parseDigits, ofDigitChars_cons, List.forall_mem_cons]
    by_cases hd : d.isDigit
    · rw [if_pos hd]
      dsimp only
      by_cases hfits : m * 10 + (d.toNat - 48) < bound
      · rw [if_pos hfits, ih hfits]
        simp [hd]
      · rw [if_neg hfits]
        refine ⟨nofun, ?_⟩
        rintro ⟨-, rfl, hlt⟩
        exact absurd (Nat.lt_of_le_of_lt (Json.le_ofDigitChars ds _) hlt) hfits
    · simp [hd]

/-- Whether digits run out of bounds is known at the first one that does. -/
theorem parseDigits_eq_tooLarge_iff {m : Nat} (hm : m < bound) :
    parseDigits bound m cs = .error .tooLarge ↔
      ∃ digits rest, cs = digits ++ rest ∧ (∀ d ∈ digits, d.isDigit) ∧
        bound ≤ Nat.ofDigitChars 10 digits m := by
  induction cs generalizing m with
  | nil =>
    refine ⟨nofun, ?_⟩
    rintro ⟨digits, rest, hcs, -, hover⟩
    obtain ⟨rfl, -⟩ := List.append_eq_nil_iff.mp hcs.symm
    exact absurd hm (Nat.not_lt.mpr hover)
  | cons d ds ih =>
    -- The digits of an overrun are not empty, so the first of them is `d`.
    have hfirst : (∃ digits rest, d :: ds = digits ++ rest ∧ (∀ c ∈ digits, c.isDigit) ∧
        bound ≤ Nat.ofDigitChars 10 digits m) ↔
          d.isDigit ∧ ∃ digits rest, ds = digits ++ rest ∧ (∀ c ∈ digits, c.isDigit) ∧
            bound ≤ Nat.ofDigitChars 10 digits (m * 10 + (d.toNat - 48)) := by
      constructor
      · rintro ⟨digits, rest, hcs, hdigits, hover⟩
        cases digits with
        | nil => exact absurd hm (Nat.not_lt.mpr hover)
        | cons c digits =>
          obtain ⟨rfl, rfl⟩ := List.cons.inj hcs
          rw [List.forall_mem_cons] at hdigits
          rw [ofDigitChars_cons] at hover
          exact ⟨hdigits.1, digits, rest, rfl, hdigits.2, hover⟩
      · rintro ⟨hd, digits, rest, rfl, hdigits, hover⟩
        exact ⟨d :: digits, rest, rfl, List.forall_mem_cons.mpr ⟨hd, hdigits⟩,
          by rwa [ofDigitChars_cons]⟩
    rw [hfirst, parseDigits]
    by_cases hd : d.isDigit
    · rw [if_pos hd]
      dsimp only
      by_cases hfits : m * 10 + (d.toNat - 48) < bound
      · rw [if_pos hfits, ih hfits]
        simp [hd]
      · rw [if_neg hfits]
        exact ⟨fun _ => ⟨hd, [], ds, rfl, nofun, Nat.not_lt.mp hfits⟩, fun _ => rfl⟩
    · simp [hd]

/-- There is something to read in digits, so they are not refused as an empty text. -/
theorem parseDigits_ne_empty (m : Nat) : parseDigits bound m cs ≠ .error .empty := by
  induction cs generalizing m with
  | nil => nofun
  | cons d ds ih =>
    rw [parseDigits]
    split
    · dsimp only
      split
      · exact ih _
      · nofun
    · nofun

/-! ## Signs -/

/-- A text without the plus sign before it. -/
def unsigned : List Char → List Char
  | '+' :: cs => cs
  | cs => cs

theorem unsigned_sign (cs : List Char) : unsigned ('+' :: cs) = cs := rfl

theorem unsigned_of_ne (h : ∀ tail, cs ≠ '+' :: tail) : unsigned cs = cs := by
  unfold unsigned
  split
  next tail => exact absurd rfl (h tail)
  next => rfl

/-- No digit is a sign, so it is clear where the digits begin. -/
theorem signed_iff {digits rest : List Char} (hsome : digits ≠ []) (h : ∀ d ∈ digits, d.isDigit) :
    Signed cs (digits ++ rest) ↔ unsigned cs = digits ++ rest := by
  obtain ⟨d, ds, rfl⟩ := List.exists_cons_of_ne_nil hsome
  have hd : d ≠ '+' := by
    rintro rfl
    exact absurd (h '+' List.mem_cons_self) (by decide)
  by_cases hsign : ∃ tail, cs = '+' :: tail
  · obtain ⟨tail, rfl⟩ := hsign
    rw [unsigned_sign]
    constructor
    · rintro (hplain | hsigned)
      · exact absurd (List.cons.inj hplain).1.symm hd
      · exact (List.cons.inj hsigned).2
    · rintro rfl
      exact .inr rfl
  · rw [unsigned_of_ne fun tail heq => hsign ⟨tail, heq⟩]
    constructor
    · rintro (heq | hsigned)
      · exact heq
      · exact absurd ⟨_, hsigned⟩ hsign
    · exact .inl

theorem numeral_iff : Numeral cs n ↔
    unsigned cs ≠ [] ∧ (∀ d ∈ unsigned cs, d.isDigit) ∧ Nat.ofDigitChars 10 (unsigned cs) 0 = n := by
  constructor
  · rintro ⟨digits, hsigned, hsome, hdigits, hvalue⟩
    rw [← List.append_nil digits, signed_iff hsome hdigits, List.append_nil] at hsigned
    rw [hsigned]
    exact ⟨hsome, hdigits, hvalue⟩
  · rintro ⟨hsome, hdigits, hvalue⟩
    refine ⟨unsigned cs, ?_, hsome, hdigits, hvalue⟩
    rw [← List.append_nil (unsigned cs), signed_iff hsome hdigits, List.append_nil]

theorem overruns_iff (hbound : 0 < bound) : Overruns bound cs ↔
    ∃ digits rest, unsigned cs = digits ++ rest ∧ (∀ d ∈ digits, d.isDigit) ∧
      bound ≤ Nat.ofDigitChars 10 digits 0 := by
  have hsome : ∀ digits : List Char, bound ≤ Nat.ofDigitChars 10 digits 0 → digits ≠ [] := by
    rintro _ hover rfl
    exact absurd hbound (Nat.not_lt.mpr hover)
  constructor
  · rintro ⟨digits, rest, hsigned, hdigits, hover⟩
    exact ⟨digits, rest, (signed_iff (hsome digits hover) hdigits).mp hsigned, hdigits, hover⟩
  · rintro ⟨digits, rest, hcs, hdigits, hover⟩
    exact ⟨digits, rest, (signed_iff (hsome digits hover) hdigits).mpr hcs, hdigits, hover⟩

/-! ## Texts -/

variable {s : String} {f : Fault}

theorem parse_of_some (h : unsigned s.toList ≠ []) :
    parse bound s = parseDigits bound 0 (unsigned s.toList) := by
  rw [parse]
  split
  next heq =>
    rw [heq] at h
    exact absurd rfl h
  next heq =>
    rw [heq] at h
    exact absurd rfl h
  next heq => rw [heq, unsigned_sign]
  next hplain => rw [unsigned_of_ne hplain]

/-- Without digits a text is refused, a sign by itself for not being one. -/
theorem parse_of_none (h : unsigned s.toList = []) :
    parse bound s = .error (if s.toList = [] then .empty else .invalidDigit) := by
  by_cases hsign : ∃ tail, s.toList = '+' :: tail
  · obtain ⟨tail, heq⟩ := hsign
    rw [heq, unsigned_sign] at h
    rw [h] at heq
    rw [parse, heq]
    rfl
  · rw [unsigned_of_ne fun tail heq => hsign ⟨tail, heq⟩] at h
    rw [parse, h]
    rfl

/-- Exactly the texts of numbers below the bound are read, as these numbers. -/
theorem parse_eq_ok_iff (hbound : 0 < bound) :
    parse bound s = .ok n ↔ Numeral s.toList n ∧ n < bound := by
  rw [numeral_iff]
  by_cases hnone : unsigned s.toList = []
  · simp [parse_of_none hnone, hnone]
  · rw [parse_of_some hnone, parseDigits_eq_ok_iff hbound]
    simp [hnone, and_assoc]

example : parse UInt32.size "+004294967295" = .ok 4294967295 := by rfl

theorem parse_eq_tooLarge_iff (hbound : 0 < bound) :
    parse bound s = .error .tooLarge ↔ Overruns bound s.toList := by
  by_cases hnone : unsigned s.toList = []
  · rw [parse_of_none hnone]
    constructor
    · split <;> nofun
    · rw [overruns_iff hbound, hnone]
      rintro ⟨digits, rest, hcs, -, hover⟩
      obtain ⟨rfl, -⟩ := List.append_eq_nil_iff.mp hcs.symm
      exact absurd hbound (Nat.not_lt.mpr hover)
  · rw [parse_of_some hnone, parseDigits_eq_tooLarge_iff hbound, overruns_iff hbound]

theorem parse_eq_empty_iff (bound : Nat) : parse bound s = .error .empty ↔ s.toList = [] := by
  by_cases hnone : unsigned s.toList = []
  · rw [parse_of_none hnone]
    split <;> simp [*]
  · rw [parse_of_some hnone]
    refine ⟨fun h => absurd h (parseDigits_ne_empty 0), fun h => ?_⟩
    rw [h] at hnone
    exact absurd rfl hnone

/-- A text of digits alone runs out of bounds if its number does. -/
theorem Numeral.overruns (h : Numeral cs n) (hle : bound ≤ n) : Overruns bound cs := by
  obtain ⟨digits, hsigned, -, hdigits, rfl⟩ := h
  exact ⟨digits, [], by rwa [List.append_nil], hdigits, hle⟩

/-- Every other text is refused for what is wrong with it. -/
theorem parse_eq_error_iff (hbound : 0 < bound) :
    parse bound s = .error f ↔ Misread bound s.toList f := by
  constructor
  · intro h
    cases f with
    | empty => exact .empty ((parse_eq_empty_iff bound).mp h)
    | tooLarge => exact .tooLarge ((parse_eq_tooLarge_iff hbound).mp h)
    | invalidDigit =>
      have hfits : ¬ Overruns bound s.toList := by
        rw [← parse_eq_tooLarge_iff hbound, h]
        nofun
      refine .invalidDigit ?_ hfits fun n hn => ?_
      · rw [ne_eq, ← parse_eq_empty_iff bound, h]
        nofun
      · have hok := (parse_eq_ok_iff hbound).mpr
          ⟨hn, Nat.lt_of_not_le fun hle => hfits (hn.overruns hle)⟩
        rw [h] at hok
        cases hok
  · rintro (hnone | hover | ⟨hsome, hfits, hno⟩)
    · exact (parse_eq_empty_iff bound).mpr hnone
    · exact (parse_eq_tooLarge_iff hbound).mpr hover
    · cases hparse : parse bound s with
      | ok n => exact absurd ((parse_eq_ok_iff hbound).mp hparse).1 (hno n)
      | error f =>
        cases f with
        | empty => exact absurd ((parse_eq_empty_iff bound).mp hparse) hsome
        | tooLarge => exact absurd ((parse_eq_tooLarge_iff hbound).mp hparse) hfits
        | invalidDigit => rfl

theorem numeral_toString (n : Nat) : Numeral (toString n).toList n := by
  obtain ⟨d, ds, hdigits, -⟩ := Json.toDigits_cons n
  have htext : (toString n).toList = Nat.toDigits 10 n := Nat.toList_repr
  refine ⟨Nat.toDigits 10 n, .inl htext, ?_, fun c hc => Json.isDigit_toDigits hc,
    Nat.ofDigitChars_ten_toDigits⟩
  rw [hdigits]
  exact List.cons_ne_nil d ds

theorem parse_toString (h : n < bound) : parse bound (toString n) = .ok n :=
  (parse_eq_ok_iff (Nat.zero_lt_of_lt h)).mpr ⟨numeral_toString n, h⟩

end PortTunnel.Decimal.Word
