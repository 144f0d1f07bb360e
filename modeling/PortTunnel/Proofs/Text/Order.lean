import PortTunnel.Proofs.Text.Utf8

/-!
# The order of UTF-8

Texts are in the order of their bytes. The first byte of a character grows with the number of bytes
that it takes, and with the character where that number is the same, so the first byte in which two
characters differ decides as the characters do.

* `encodeChar_lt`: two characters, whatever follows.
* `encode_lt_encode_iff`, `bytes_lt_bytes_iff`: texts and strings.
-/

namespace PortTunnel.Text.Utf8

/-! ## Characters -/

/-- A byte that is not greater leaves it to the bytes behind it only where it is the same. -/
theorem cons_lt_cons_of_le {m n : Nat} {xs ys : List UInt8} (hm : m < 256) (hn : n < 256)
    (hle : m ≤ n) (hrest : m = n → xs < ys) : UInt8.ofNat m :: xs < UInt8.ofNat n :: ys := by
  rw [List.cons_lt_cons_iff]
  rcases Nat.lt_or_eq_of_le hle with hlt | heq
  · exact .inl ((UInt8.ofNat_lt_iff_lt hm hn).mpr hlt)
  · exact .inr ⟨congrArg UInt8.ofNat heq, hrest heq⟩

/-- A smaller character has smaller bytes. -/
theorem encodeChar_lt {c d : Char} (h : c < d) (xs ys : List UInt8) :
    String.utf8EncodeChar c ++ xs < String.utf8EncodeChar d ++ ys := by
  have hlt : c.val.toNat < d.val.toNat := h
  have hd := toNat_valid d
  -- By the number of bytes: where it differs, the first byte decides.
  fun_cases String.utf8EncodeChar c with
  | case1 v hv =>
    fun_cases String.utf8EncodeChar d with
    | case1 w hw =>
      exact cons_lt_cons_of_le (by omega) (by omega) (by omega) (by omega)
    | _ => exact cons_lt_cons_of_le (by omega) (by omega) (by omega) (by omega)
  | case2 v =>
    fun_cases String.utf8EncodeChar d with
    | case1 => omega
    | case2 w =>
      exact cons_lt_cons_of_le (by omega) (by omega) (by omega) fun _ =>
        cons_lt_cons_of_le (by omega) (by omega) (by omega) (by omega)
    | _ => exact cons_lt_cons_of_le (by omega) (by omega) (by omega) (by omega)
  | case3 v =>
    fun_cases String.utf8EncodeChar d with
    | case1 | case2 => omega
    | case3 w =>
      exact cons_lt_cons_of_le (by omega) (by omega) (by omega) fun _ =>
        cons_lt_cons_of_le (by omega) (by omega) (by omega) fun _ =>
          cons_lt_cons_of_le (by omega) (by omega) (by omega) (by omega)
    | case4 w => exact cons_lt_cons_of_le (by omega) (by omega) (by omega) (by omega)
  | case4 v =>
    fun_cases String.utf8EncodeChar d with
    | case1 | case2 | case3 => omega
    | case4 w =>
      exact cons_lt_cons_of_le (by omega) (by omega) (by omega) fun _ =>
        cons_lt_cons_of_le (by omega) (by omega) (by omega) fun _ =>
          cons_lt_cons_of_le (by omega) (by omega) (by omega) fun _ =>
            cons_lt_cons_of_le (by omega) (by omega) (by omega) (by omega)

/-! ## Texts -/

theorem encode_cons (c : Char) (cs : List Char) :
    encode (c :: cs) = String.utf8EncodeChar c ++ encode cs := List.flatMap_cons

theorem encode_lt_encode {cs ds : List Char} (h : cs < ds) : encode cs < encode ds := by
  induction h with
  | nil =>
    obtain ⟨b, bs, hbytes⟩ := List.exists_cons_of_ne_nil (String.utf8EncodeChar_ne_nil (c := _))
    rw [encode_cons, hbytes]
    exact List.nil_lt_cons _ _
  | rel h =>
    rw [encode_cons, encode_cons]
    exact encodeChar_lt h _ _
  | cons _ ih =>
    rw [encode_cons, encode_cons]
    exact List.append_left_lt ih

theorem encode_lt_encode_iff {cs ds : List Char} : encode cs < encode ds ↔ cs < ds := by
  refine ⟨fun h => ?_, encode_lt_encode⟩
  refine Classical.byContradiction fun hnot => ?_
  by_cases heq : ds = cs
  · rw [heq] at h
    exact Std.lt_irrefl h
  · have hgt : ds < cs := Std.lt_of_le_of_ne (Std.not_lt.mp hnot) heq
    exact Std.lt_irrefl (Std.lt_trans h (encode_lt_encode hgt))

theorem bytes_lt_bytes_iff {s t : String} : bytes s < bytes t ↔ s < t :=
  encode_lt_encode_iff.trans String.lt_iff.symm

end PortTunnel.Text.Utf8
