import PortTunnel.Proofs.Text.Utf8
import PortTunnel.Text.Base64

/-!
# Base64 reads back

* `Variant.Sound`: what an alphabet must satisfy; both do (`url_sound`, `standard_sound`).
* `decode_encode`: bytes read back from their symbols, whatever the size of the last group.
* `url_alphabet`: without padding nothing but letters, digits, `-` and `_` is written.
-/

namespace PortTunnel.Text.Base64

/-- Every symbol is one byte, is not the fill, and has its value back. -/
structure Variant.Sound (v : Variant) : Prop where
  ascii : ∀ n < 64, (symbol v n).toNat < 0x80
  value : ∀ n < 64, value? v (UInt8.ofNat (symbol v n).toNat) = some n
  notFill : ∀ n < 64, UInt8.ofNat (symbol v n).toNat ≠ pad

theorem url_sound : Variant.url.Sound := ⟨by decide, by decide, by decide⟩

theorem standard_sound : Variant.standard.Sound := ⟨by decide, by decide, by decide⟩

/-- The byte of a symbol. -/
def symbolByte (v : Variant) (n : Nat) : UInt8 := UInt8.ofNat (symbol v n).toNat

/-- The fill of a short group in bytes. -/
def fillBytes (v : Variant) (n : Nat) : List UInt8 := if v.padded then List.replicate n pad else []

/-- The written form in bytes. -/
def written (v : Variant) (bytes : List UInt8) : List UInt8 :=
  (encode v bytes).map fun c => UInt8.ofNat c.toNat

variable {v : Variant}

/-! ## The written form, group by group -/

theorem map_fill (n : Nat) :
    ((fill v n).map fun c => UInt8.ofNat c.toNat) = fillBytes v n := by
  unfold fill fillBytes
  split
  · rw [List.map_replicate]
    rfl
  · rfl

theorem written_one (a : UInt8) :
    written v [a] =
      [symbolByte v (a.toNat * 16 / 64), symbolByte v (a.toNat * 16 % 64)] ++ fillBytes v 2 := by
  simp [written, encode, map_fill, symbolByte]

theorem written_two (a b : UInt8) :
    written v [a, b] =
      [symbolByte v ((a.toNat * 256 + b.toNat) * 4 / 4096),
        symbolByte v ((a.toNat * 256 + b.toNat) * 4 / 64 % 64),
        symbolByte v ((a.toNat * 256 + b.toNat) * 4 % 64)] ++ fillBytes v 1 := by
  simp [written, encode, map_fill, symbolByte]

theorem written_group (a b c : UInt8) (rest : List UInt8) :
    written v (a :: b :: c :: rest) =
      symbolByte v (((a.toNat * 256 + b.toNat) * 256 + c.toNat) / 262144) ::
        symbolByte v (((a.toNat * 256 + b.toNat) * 256 + c.toNat) / 4096 % 64) ::
        symbolByte v (((a.toNat * 256 + b.toNat) * 256 + c.toNat) / 64 % 64) ::
        symbolByte v (((a.toNat * 256 + b.toNat) * 256 + c.toNat) % 64) :: written v rest := by
  simp [written, encode, symbolByte]

/-- Induction along the groups: the last one has one, two or three bytes. -/
theorem groups_induction {P : List UInt8 → Prop} (nil : P []) (one : ∀ a, P [a])
    (two : ∀ a b, P [a, b]) (group : ∀ a b c rest, P rest → P (a :: b :: c :: rest)) :
    ∀ bytes, P bytes
  | [] => nil
  | [a] => one a
  | [a, b] => two a b
  | a :: b :: c :: rest => group a b c rest (groups_induction nil one two group rest)

/-! ## Symbols -/

theorem value?_symbolByte (hv : v.Sound) {n : Nat} (h : n < 64) :
    value? v (symbolByte v n) = some n := hv.value n h

theorem readSymbol_symbolByte (hv : v.Sound) {n : Nat} (h : n < 64) (offset : Nat) :
    readSymbol v (symbolByte v n) offset = .ok n := by
  simp [readSymbol, value?_symbolByte hv h]

theorem readLast_symbol (hv : v.Sound) {n : Nat} (h : n < 64) (offset : Nat) {index : Nat}
    {bs : List UInt8} {values : List Nat} {fills : Nat}
    (hrest : readLast v offset (index + 1) none bs = .ok (values, fills)) :
    readLast v offset index none (symbolByte v n :: bs) = .ok (n :: values, fills) := by
  have hpad : symbolByte v n ≠ pad := hv.notFill n h
  simp [readLast, hpad, readSymbol_symbolByte hv h, hrest, bind, Except.bind]

theorem readLast_fill {offset index n : Nat} (hi : 2 ≤ index) (filled : Option Nat) :
    readLast v offset index filled (List.replicate n pad) = .ok ([], n) := by
  induction n generalizing index filled with
  | zero => rfl
  | succ n ih =>
    have hnot : ¬ index < 2 := by omega
    rw [List.replicate_succ]
    unfold readLast
    rw [if_pos rfl, if_neg hnot, ih (by omega)]
    rfl

theorem readLast_fillBytes {offset index n : Nat} (hi : 2 ≤ index) :
    readLast v offset index none (fillBytes v n) = .ok ([], if v.padded then n else 0) := by
  unfold fillBytes
  split
  · exact readLast_fill hi none
  · rfl

/-! ## The last group -/

/-- A byte that is rebuilt from the pieces of its value. -/
theorem byte_of_eq {n : Nat} {a : UInt8} (h : n = a.toNat) : UInt8.ofNat n = a := by
  rw [h, UInt8.ofNat_toNat]

theorem decodeLast_of_two {group : List UInt8} {offset x y : Nat}
    (hread : readLast v offset 0 none group = .ok ([x, y], if v.padded then 2 else 0))
    (hlow : y % 16 = 0) : decodeLast v offset group = .ok [UInt8.ofNat (x * 4 + y / 16)] := by
  rw [decodeLast, hread]
  cases v.padded <;> simp [hlow, bind, Except.bind]

theorem decodeLast_of_three {group : List UInt8} {offset x y z : Nat}
    (hread : readLast v offset 0 none group = .ok ([x, y, z], if v.padded then 1 else 0))
    (hlow : z % 4 = 0) :
    decodeLast v offset group =
      .ok [UInt8.ofNat (x * 4 + y / 16), UInt8.ofNat (y % 16 * 16 + z / 4)] := by
  rw [decodeLast, hread]
  cases v.padded <;> simp [hlow, bind, Except.bind]

theorem decodeLast_of_four {group : List UInt8} {offset x y z w : Nat}
    (hread : readLast v offset 0 none group = .ok ([x, y, z, w], 0)) :
    decodeLast v offset group =
      .ok [UInt8.ofNat (x * 4 + y / 16), UInt8.ofNat (y % 16 * 16 + z / 4),
        UInt8.ofNat (z % 4 * 64 + w)] := by
  rw [decodeLast, hread]
  cases v.padded <;> simp [bind, Except.bind]

theorem decodeLast_one (hv : v.Sound) (offset : Nat) (a : UInt8) :
    decodeLast v offset (written v [a]) = .ok [a] := by
  have ha := a.toNat_lt
  have hread := readLast_symbol hv (show a.toNat * 16 / 64 < 64 by omega) offset
    (readLast_symbol hv (show a.toNat * 16 % 64 < 64 by omega) offset
      (readLast_fillBytes (v := v) (n := 2) (Nat.le_refl 2)))
  have hbyte : UInt8.ofNat (a.toNat * 16 / 64 * 4 + a.toNat * 16 % 64 / 16) = a :=
    byte_of_eq (by omega)
  rw [written_one, List.cons_append, List.cons_append, List.nil_append,
    decodeLast_of_two hread (by omega), hbyte]

theorem decodeLast_two (hv : v.Sound) (offset : Nat) (a b : UInt8) :
    decodeLast v offset (written v [a, b]) = .ok [a, b] := by
  have ha := a.toNat_lt
  have hb := b.toNat_lt
  rw [written_two]
  generalize hn : (a.toNat * 256 + b.toNat) * 4 = n
  have hread := readLast_symbol hv (show n / 4096 < 64 by omega) offset
    (readLast_symbol hv (show n / 64 % 64 < 64 by omega) offset
      (readLast_symbol hv (show n % 64 < 64 by omega) offset
        (readLast_fillBytes (v := v) (n := 1) (show 2 ≤ 0 + 1 + 1 + 1 by omega))))
  have hfirst : UInt8.ofNat (n / 4096 * 4 + n / 64 % 64 / 16) = a := byte_of_eq (by omega)
  have hsecond : UInt8.ofNat (n / 64 % 64 % 16 * 16 + n % 64 / 4) = b := byte_of_eq (by omega)
  rw [List.cons_append, List.cons_append, List.cons_append, List.nil_append,
    decodeLast_of_three hread (by omega), hfirst, hsecond]

/-- The three bytes of a whole group. -/
theorem group_bytes {a b c : UInt8} {n : Nat} (hn : (a.toNat * 256 + b.toNat) * 256 + c.toNat = n) :
    n / 262144 < 64 ∧ UInt8.ofNat (n / 262144 * 4 + n / 4096 % 64 / 16) = a ∧
      UInt8.ofNat (n / 4096 % 64 % 16 * 16 + n / 64 % 64 / 4) = b ∧
      UInt8.ofNat (n / 64 % 64 % 4 * 64 + n % 64) = c := by
  have ha := a.toNat_lt
  have hb := b.toNat_lt
  have hc := c.toNat_lt
  exact ⟨by omega, byte_of_eq (by omega), byte_of_eq (by omega), byte_of_eq (by omega)⟩

theorem decodeLast_three (hv : v.Sound) (offset : Nat) (a b c : UInt8) :
    decodeLast v offset (written v [a, b, c]) = .ok [a, b, c] := by
  rw [written_group]
  generalize hn : (a.toNat * 256 + b.toNat) * 256 + c.toNat = n
  obtain ⟨hhigh, hfirst, hsecond, hthird⟩ := group_bytes hn
  have hread := readLast_symbol hv hhigh offset
    (readLast_symbol hv (show n / 4096 % 64 < 64 by omega) offset
      (readLast_symbol hv (show n / 64 % 64 < 64 by omega) offset
        (readLast_symbol hv (show n % 64 < 64 by omega) offset
          (show readLast v offset (0 + 1 + 1 + 1 + 1) none [] = .ok ([], 0) from rfl))))
  have hnil : written v [] = [] := rfl
  rw [hnil, decodeLast_of_four hread, hfirst, hsecond, hthird]

/-! ## Whole texts -/

theorem written_eq_cons (a : UInt8) (rest : List UInt8) :
    ∃ b bs, written v (a :: rest) = b :: bs := by
  match rest with
  | [] => exact ⟨_, _, written_one a⟩
  | [b] => exact ⟨_, _, written_two a b⟩
  | b :: c :: rest => exact ⟨_, _, written_group a b c rest⟩

/-- A group that is not the last one. -/
theorem decodeFrom_group (hv : v.Sound) {a b c : UInt8} {rest : List UInt8} {offset : Nat}
    (hne : rest ≠ []) (hrest : decodeFrom v (offset + 4) (written v rest) = .ok rest) :
    decodeFrom v offset (written v (a :: b :: c :: rest)) = .ok (a :: b :: c :: rest) := by
  obtain ⟨d, ds, rfl⟩ := List.exists_cons_of_ne_nil hne
  obtain ⟨e, es, hwritten⟩ := written_eq_cons (v := v) d ds
  rw [written_group]
  generalize hn : (a.toNat * 256 + b.toNat) * 256 + c.toNat = n
  obtain ⟨hhigh, hfirst, hsecond, hthird⟩ := group_bytes hn
  rw [hwritten] at hrest ⊢
  rw [decodeFrom, readSymbol_symbolByte hv hhigh,
    readSymbol_symbolByte hv (show n / 4096 % 64 < 64 by omega),
    readSymbol_symbolByte hv (show n / 64 % 64 < 64 by omega),
    readSymbol_symbolByte hv (show n % 64 < 64 by omega), hrest]
  simp only [bind, Except.bind]
  rw [hfirst, hsecond, hthird]

theorem decodeFrom_last {group : List UInt8} (h : group.length ≤ 4) (offset : Nat) :
    decodeFrom v offset group = decodeLast v offset group := by
  match group with
  | [] => rfl
  | [_] => rfl
  | [_, _] => rfl
  | [_, _, _] => rfl
  | [_, _, _, _] => rfl
  | _ :: _ :: _ :: _ :: _ :: rest =>
    simp only [List.length_cons] at h
    omega

theorem length_fillBytes_le (n : Nat) : (fillBytes v n).length ≤ n := by
  unfold fillBytes
  split <;> simp

theorem decodeFrom_written (hv : v.Sound) (bytes : List UInt8) (offset : Nat) :
    decodeFrom v offset (written v bytes) = .ok bytes := by
  induction bytes using groups_induction generalizing offset with
  | nil =>
    have hshort : (written v []).length ≤ 4 := by simp [written, encode]
    rw [decodeFrom_last hshort]
    simp only [written, encode, List.map_nil]
    cases hp : v.padded <;> simp [decodeLast, readLast, hp, bind, Except.bind]
  | one a =>
    have hlen := length_fillBytes_le (v := v) 2
    rw [decodeFrom_last (by rw [written_one]; simp; omega)]
    exact decodeLast_one hv offset a
  | two a b =>
    have hlen := length_fillBytes_le (v := v) 1
    rw [decodeFrom_last (by rw [written_two]; simp; omega)]
    exact decodeLast_two hv offset a b
  | group a b c rest ih =>
    by_cases hne : rest = []
    · subst hne
      rw [decodeFrom_last (by rw [written_group]; simp [written, encode])]
      exact decodeLast_three hv offset a b c
    · exact decodeFrom_group hv hne (ih (offset + 4))

/-! ## The characters that are written -/

theorem mem_fill {c : Char} {n : Nat} (h : c ∈ fill v n) : v.padded ∧ c = '=' := by
  unfold fill at h
  split at h
  · exact ⟨‹_›, List.eq_of_mem_replicate h⟩
  · cases h

/-- Nothing but symbols is written, and fills where short groups are padded. -/
theorem mem_encode {bytes : List UInt8} {c : Char} (h : c ∈ encode v bytes) :
    (∃ n < 64, c = symbol v n) ∨ v.padded ∧ c = '=' := by
  induction bytes using groups_induction with
  | nil => cases h
  | one a =>
    have ha := a.toNat_lt
    simp only [encode, List.cons_append, List.nil_append, List.mem_cons] at h
    rcases h with h | h | h
    · exact Or.inl ⟨_, by omega, h⟩
    · exact Or.inl ⟨_, by omega, h⟩
    · exact Or.inr (mem_fill h)
  | two a b =>
    have ha := a.toNat_lt
    have hb := b.toNat_lt
    simp only [encode, List.cons_append, List.nil_append, List.mem_cons] at h
    rcases h with h | h | h | h
    · exact Or.inl ⟨_, by omega, h⟩
    · exact Or.inl ⟨_, by omega, h⟩
    · exact Or.inl ⟨_, by omega, h⟩
    · exact Or.inr (mem_fill h)
  | group a b c' rest ih =>
    have ha := a.toNat_lt
    have hb := b.toNat_lt
    have hc := c'.toNat_lt
    simp only [encode, List.mem_cons] at h
    rcases h with h | h | h | h | h
    · exact Or.inl ⟨_, by omega, h⟩
    · exact Or.inl ⟨_, by omega, h⟩
    · exact Or.inl ⟨_, by omega, h⟩
    · exact Or.inl ⟨_, by omega, h⟩
    · exact ih h

theorem encode_bytes (hv : v.Sound) (bytes : List UInt8) :
    Utf8.encode (encode v bytes) = written v bytes := by
  apply Utf8.encode_ascii
  intro c hc
  rcases mem_encode hc with ⟨n, hn, rfl⟩ | ⟨-, rfl⟩
  · exact hv.ascii n hn
  · decide

/-- No byte is foreign to the reader. -/
theorem known_of_mem_written (hv : v.Sound) {bytes : List UInt8} {b : UInt8}
    (h : b ∈ written v bytes) : b = pad ∨ (value? v b).isSome := by
  obtain ⟨c, hc, rfl⟩ := List.mem_map.mp h
  rcases mem_encode hc with ⟨n, hn, rfl⟩ | ⟨-, rfl⟩
  · right
    rw [hv.value n hn]
    rfl
  · left
    rfl

/-- Bytes read back from what is written for them. -/
theorem decode_encode (hv : v.Sound) (bytes : List UInt8) :
    decode v (Utf8.encode (encode v bytes)) = .ok bytes := by
  rw [encode_bytes hv]
  unfold decode
  split
  · rename_i last hlast
    have hknown := known_of_mem_written hv (List.mem_of_getLast? hlast)
    have hpass : ((written v bytes).length % 4 = 1 && last != pad && (value? v last).isNone) =
        false := by
      rcases hknown with rfl | hsome
      · simp
      · simp [Option.isNone_eq_false_iff.mpr hsome]
    rw [if_neg (by simp [hpass])]
    exact decodeFrom_written hv bytes 0
  · rename_i hnone
    cases bytes with
    | nil => rfl
    | cons a rest =>
      obtain ⟨b, bs, hcons⟩ := written_eq_cons (v := v) a rest
      rw [hcons] at hnone
      simp at hnone

/-- The symbols of the alphabet that is safe in environment variables. -/
def isUrlChar (c : Char) : Bool := c.isAlphanum || c = '-' || c = '_'

theorem url_alphabet {bytes : List UInt8} {c : Char} (h : c ∈ encode .url bytes) :
    isUrlChar c := by
  have hsymbol : ∀ n < 64, isUrlChar (symbol .url n) := by decide
  rcases mem_encode h with ⟨n, hn, rfl⟩ | ⟨hp, -⟩
  · exact hsymbol n hn
  · cases hp

end PortTunnel.Text.Base64
