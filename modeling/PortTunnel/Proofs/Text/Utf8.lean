import PortTunnel.Text.Utf8

/-!
# UTF-8 reads back

The reader of `Text.Utf8` takes one character after another, and what it makes of the bytes
of a character is that character.

* `decodeFrom_encodeChar`: one character, by the number of its bytes.
* `decode_encode`: every text reads back from its bytes.
* `encode_ascii`: the bytes of a text of ASCII characters.
* `zero_not_mem_encode`: where the byte zero comes from.
-/

namespace PortTunnel.Text.Utf8

theorem toNat_ofNat_byte {n : Nat} (h : n < 256) : (UInt8.ofNat n).toNat = n := by
  rw [UInt8.toNat_ofNat']
  exact Nat.mod_eq_of_lt h

/-! ## Bytes after the first -/

theorem decodeFrom_last {low high b : UInt8} (hlow : low ≤ b) (hhigh : b ≤ high)
    (here bits seen index : Nat) (bs : List UInt8) :
    decodeFrom here (.tail 1 low high bits seen index) (b :: bs) =
      (decodeFrom (here + 1) .lead bs).map (Char.ofNat (bits * 64 + b.toNat % 64) :: ·) := by
  simp [decodeFrom, hlow, hhigh]

theorem decodeFrom_more {low high b : UInt8} (hlow : low ≤ b) (hhigh : b ≤ high)
    (left here bits seen index : Nat) (bs : List UInt8) :
    decodeFrom here (.tail (left + 2) low high bits seen index) (b :: bs) =
      decodeFrom (here + 1) (.tail (left + 1) 0x80 0xBF (bits * 64 + b.toNat % 64) (seen + 1) index)
        bs := by
  simp [decodeFrom, hlow, hhigh]

/-- Between a byte and its bounds only the values count. -/
theorem byte_between {n low high : Nat} (hn : n < 256) (hlow : low ≤ n) (hhigh : n ≤ high)
    (hh : high < 256) : UInt8.ofNat low ≤ UInt8.ofNat n ∧ UInt8.ofNat n ≤ UInt8.ofNat high := by
  simp only [UInt8.le_iff_toNat_le]
  rw [toNat_ofNat_byte hn, toNat_ofNat_byte hh, toNat_ofNat_byte (by omega)]
  exact ⟨hlow, hhigh⟩

/-- The six bits that a byte after the first carries. -/
theorem toNat_tail (n : Nat) : (UInt8.ofNat (n % 64 + 0x80)).toNat % 64 = n % 64 := by
  rw [toNat_ofNat_byte (by omega)]
  omega

theorem tail_between (n : Nat) :
    (0x80 : UInt8) ≤ UInt8.ofNat (n % 64 + 0x80) ∧
      UInt8.ofNat (n % 64 + 0x80) ≤ (0xBF : UInt8) := by
  have h : UInt8.ofNat 0x80 ≤ UInt8.ofNat (n % 64 + 0x80) ∧
      UInt8.ofNat (n % 64 + 0x80) ≤ UInt8.ofNat 0xBF :=
    byte_between (by omega) (by omega) (by omega) (by omega)
  exact h

/-! ## First bytes -/

theorem decodeFrom_lead {b : UInt8} {p : Pending} {here : Nat} (hb : 0x80 ≤ b.toNat)
    (hp : Pending.ofLead? b here = some p) (bs : List UInt8) :
    decodeFrom here .lead (b :: bs) = decodeFrom (here + 1) p bs := by
  have hnot : ¬ b < 0x80 := by
    rw [UInt8.lt_iff_toNat_lt]
    exact Nat.not_lt.mpr hb
  simp [decodeFrom, hnot, hp]

theorem decodeFrom_ascii {b : UInt8} (hb : b.toNat < 0x80) (here : Nat) (bs : List UInt8) :
    decodeFrom here .lead (b :: bs) =
      (decodeFrom (here + 1) .lead bs).map (Char.ofNat b.toNat :: ·) := by
  have hlt : b < 0x80 := UInt8.lt_iff_toNat_lt.mpr hb
  simp [decodeFrom, hlt]

theorem ofLead?_two {n : Nat} (hlow : 0xC2 ≤ n) (hhigh : n ≤ 0xDF) (here : Nat) :
    Pending.ofLead? (UInt8.ofNat n) here = some (.tail 1 0x80 0xBF (n % 32) 1 here) := by
  simp [Pending.ofLead?, toNat_ofNat_byte (show n < 256 by omega), hlow, hhigh]

/-- The first of three bytes bounds the second: no character has two forms, and none stands
for half of a pair. -/
theorem ofLead?_three {v : Nat} (hlow : 0x800 ≤ v) (hhigh : v ≤ 0xFFFF)
    (hpair : v < 0xD800 ∨ 0xDFFF < v) (here : Nat) :
    ∃ low high, Pending.ofLead? (UInt8.ofNat (v / 4096 % 16 + 0xE0)) here =
        some (.tail 2 (UInt8.ofNat low) (UInt8.ofNat high) (v / 4096) 1 here) ∧
      low ≤ v / 64 % 64 + 0x80 ∧ v / 64 % 64 + 0x80 ≤ high ∧ high < 256 := by
  have hn : v / 4096 % 16 + 0xE0 < 256 := by omega
  by_cases h0 : v / 4096 = 0
  · exact ⟨0xA0, 0xBF, by simp [Pending.ofLead?, h0], by omega, by omega, by omega⟩
  by_cases hd : v / 4096 = 13
  · exact ⟨0x80, 0x9F, by simp [Pending.ofLead?, hd], by omega, by omega, by omega⟩
  · refine ⟨0x80, 0xBF, ?_, by omega, by omega, by omega⟩
    have h1 : ¬ v / 4096 % 16 + 224 ≤ 223 := by omega
    have h2 : ¬ v / 4096 % 16 = 0 := by omega
    have h3 : ¬ v / 4096 % 16 = 13 := by omega
    have h4 : 225 ≤ v / 4096 % 16 + 224 := by omega
    have h5 : v / 4096 % 16 + 224 ≤ 239 := by omega
    have h6 : (v / 4096 % 16 + 224) % 16 = v / 4096 := by omega
    simp only [Pending.ofLead?, toNat_ofNat_byte hn]
    simp [h1, h2, h3, h4, h5, h6]

theorem ofLead?_four {v : Nat} (hlow : 0x10000 ≤ v) (hhigh : v < 0x110000) (here : Nat) :
    ∃ low high, Pending.ofLead? (UInt8.ofNat (v / 262144 % 8 + 0xF0)) here =
        some (.tail 3 (UInt8.ofNat low) (UInt8.ofNat high) (v / 262144) 1 here) ∧
      low ≤ v / 4096 % 64 + 0x80 ∧ v / 4096 % 64 + 0x80 ≤ high ∧ high < 256 := by
  have hcases : v / 262144 = 0 ∨ v / 262144 = 1 ∨ v / 262144 = 2 ∨ v / 262144 = 3 ∨
      v / 262144 = 4 := by omega
  rcases hcases with h | h | h | h | h
  · exact ⟨0x90, 0xBF, by simp [Pending.ofLead?, h], by omega, by omega, by omega⟩
  · exact ⟨0x80, 0xBF, by simp [Pending.ofLead?, h], by omega, by omega, by omega⟩
  · exact ⟨0x80, 0xBF, by simp [Pending.ofLead?, h], by omega, by omega, by omega⟩
  · exact ⟨0x80, 0xBF, by simp [Pending.ofLead?, h], by omega, by omega, by omega⟩
  · exact ⟨0x80, 0x8F, by simp [Pending.ofLead?, h], by omega, by omega, by omega⟩

/-! ## Characters -/

theorem toNat_valid (c : Char) :
    c.val.toNat < 0xD800 ∨ 0xDFFF < c.val.toNat ∧ c.val.toNat < 0x110000 := c.valid

/-- The reader makes one character of its bytes and goes on behind them. -/
theorem decodeFrom_encodeChar (c : Char) (here : Nat) (bs : List UInt8) :
    decodeFrom here .lead (String.utf8EncodeChar c ++ bs) =
      (decodeFrom (here + c.utf8Size) .lead bs).map (c :: ·) := by
  have hvalid := toNat_valid c
  have hback : Char.ofNat c.val.toNat = c := Char.ofNat_toNat c
  rw [← String.length_utf8EncodeChar]
  fun_cases String.utf8EncodeChar c with
  | case1 v h =>
    have hv : (UInt8.ofNat v).toNat = v := toNat_ofNat_byte (by omega)
    rw [List.singleton_append, decodeFrom_ascii (by omega), hv, hback]
    rfl
  | case2 v h1 h2 =>
    have hbits : (v / 64 % 32 + 192) % 32 * 64 + v % 64 = v := by omega
    have hlead := ofLead?_two (n := v / 64 % 32 + 192) (by omega) (by omega) here
    simp only [List.cons_append, List.nil_append]
    rw [decodeFrom_lead (by rw [toNat_ofNat_byte] <;> omega) hlead,
      decodeFrom_last (tail_between v).1 (tail_between v).2, toNat_tail, hbits, hback]
    rfl
  | case3 v h1 h2 h3 =>
    obtain ⟨low, high, hlead, hlow, hhigh, hh⟩ :=
      ofLead?_three (v := v) (by omega) h3 (by omega) here
    have hsecond := byte_between (by omega) hlow hhigh hh
    have hbits : (v / 4096 * 64 + v / 64 % 64) * 64 + v % 64 = v := by omega
    simp only [List.cons_append, List.nil_append]
    rw [decodeFrom_lead (by rw [toNat_ofNat_byte] <;> omega) hlead,
      decodeFrom_more hsecond.1 hsecond.2, toNat_tail,
      decodeFrom_last (tail_between v).1 (tail_between v).2, toNat_tail, hbits, hback]
    rfl
  | case4 v h1 h2 h3 =>
    obtain ⟨low, high, hlead, hlow, hhigh, hh⟩ := ofLead?_four (v := v) (by omega) (by omega) here
    have hsecond := byte_between (by omega) hlow hhigh hh
    have hthird := tail_between (v / 64)
    have hbits : ((v / 262144 * 64 + v / 4096 % 64) * 64 + v / 64 % 64) * 64 + v % 64 = v := by
      omega
    simp only [List.cons_append, List.nil_append]
    rw [decodeFrom_lead (by rw [toNat_ofNat_byte] <;> omega) hlead,
      decodeFrom_more hsecond.1 hsecond.2, toNat_tail, decodeFrom_more hthird.1 hthird.2,
      toNat_tail, decodeFrom_last (tail_between v).1 (tail_between v).2, toNat_tail, hbits, hback]
    rfl

/-! ## Texts -/

theorem decodeFrom_encode (cs : List Char) (here : Nat) :
    decodeFrom here .lead (encode cs) = .ok cs := by
  induction cs generalizing here with
  | nil => rfl
  | cons c cs ih =>
    have hcons : encode (c :: cs) = String.utf8EncodeChar c ++ encode cs := by simp [encode]
    rw [hcons, decodeFrom_encodeChar, ih]
    rfl

/-- Every text reads back from its bytes. -/
theorem decode_encode (cs : List Char) : decode (encode cs) = .ok cs := decodeFrom_encode cs 0

/-- An ASCII character is one byte. -/
theorem encode_ascii {cs : List Char} (h : ∀ c ∈ cs, c.toNat < 0x80) :
    encode cs = cs.map fun c => UInt8.ofNat c.toNat := by
  induction cs with
  | nil => rfl
  | cons c cs ih =>
    have hc : c.val.toNat ≤ 0x7f := by
      have := h c List.mem_cons_self
      exact Nat.le_of_lt_succ this
    have hone : String.utf8EncodeChar c = [UInt8.ofNat c.toNat] := by
      unfold String.utf8EncodeChar
      exact if_pos hc
    have hrest := ih fun d hd => h d (List.mem_cons_of_mem c hd)
    simp only [encode, List.flatMap_cons, List.map_cons] at hrest ⊢
    rw [hone, hrest]
    rfl

/-! ## The byte zero -/

theorem ofNat_byte_ne_zero {n : Nat} (hn : n < 256) (hpos : 0 < n) : (0 : UInt8) ≠ UInt8.ofNat n := by
  intro heq
  have hzero : (0 : UInt8).toNat = n := by rw [heq, toNat_ofNat_byte hn]
  exact absurd hzero (Nat.ne_of_lt hpos)

/-- Only the character zero has a byte that is zero. -/
theorem eq_nul_of_mem {c : Char} (h : 0 ∈ String.utf8EncodeChar c) : c = '\x00' := by
  unfold String.utf8EncodeChar at h
  dsimp only at h
  split at h
  next hv =>
    by_cases hzero : c.val.toNat = 0
    · exact Char.ext (UInt32.toNat_inj.mp hzero)
    · exact absurd (List.mem_singleton.mp h) (ofNat_byte_ne_zero (by omega) (by omega))
  next =>
    split at h
    · simp only [List.mem_cons, List.not_mem_nil, or_false] at h
      rcases h with h | h <;> exact absurd h (ofNat_byte_ne_zero (by omega) (by omega))
    · split at h <;> simp only [List.mem_cons, List.not_mem_nil, or_false] at h
      · rcases h with h | h | h <;> exact absurd h (ofNat_byte_ne_zero (by omega) (by omega))
      · rcases h with h | h | h | h <;> exact absurd h (ofNat_byte_ne_zero (by omega) (by omega))

theorem zero_not_mem_encode {cs : List Char} (h : '\x00' ∉ cs) : 0 ∉ encode cs := by
  rintro hzero
  obtain ⟨c, hc, hbyte⟩ := List.mem_flatMap.mp hzero
  exact h (eq_nul_of_mem hbyte ▸ hc)

end PortTunnel.Text.Utf8
