import Mathlib.Data.String.Basic

/-!
# Texts in segments

A text is split at a sign into the segments between its occurrences. Splitting a text is splitting
its characters, so the segments are known by three facts: there is one at least, the sign occurs in
none of them, and with the sign between any two of them they are the text again.

* `splitOn_char`: splitting a text, as splitting its characters.
* `Segments`: what a text comes apart into; `segments_iff`: that is what splitting makes of it.
-/

namespace PortTunnel.Text

open String (ofList utf8Len)
open String.Pos (Raw)

/-! ## Splitting

In a text `l ++ m ++ r`, the segment that has been read is `m`, and `r` is still to be read. -/

theorem splitOnAux_nil (c : Char) (l m : List Char) (acc : List String) :
    (ofList (l ++ m)).splitOnAux (ofList [c]) ⟨utf8Len l⟩ ⟨utf8Len (l ++ m)⟩ 0 acc =
      acc.reverse ++ [ofList m] := by
  have hextract := String.extract_of_valid l m []
  have hend : (⟨utf8Len (l ++ m)⟩ : Raw).atEnd (ofList (l ++ m)) = true := by
    rw [String.atEnd_iff, String.rawEndPos_ofList]
    exact Nat.le_refl _
  rw [List.append_nil] at hextract
  rw [String.splitOnAux, if_pos hend, String.utf8Len_append, hextract, List.reverse_cons]

theorem splitOnAux_cons (c d : Char) (l m r : List Char) (acc : List String) :
    (ofList (l ++ m ++ d :: r)).splitOnAux (ofList [c]) ⟨utf8Len l⟩ ⟨utf8Len (l ++ m)⟩ 0 acc =
      if d = c then
        (ofList (l ++ m ++ d :: r)).splitOnAux (ofList [c]) ⟨utf8Len (l ++ m ++ [d])⟩
          ⟨utf8Len (l ++ m ++ [d])⟩ 0 (ofList m :: acc)
      else
        (ofList (l ++ m ++ d :: r)).splitOnAux (ofList [c]) ⟨utf8Len l⟩
          ⟨utf8Len (l ++ m ++ [d])⟩ 0 acc := by
  have hextract := String.extract_of_valid l m (d :: r)
  have hget := String.get_of_valid (l ++ m) (d :: r)
  have hnext : Raw.next (ofList (l ++ m ++ d :: r)) ⟨utf8Len (l ++ m)⟩ =
      ⟨utf8Len (l ++ m ++ [d])⟩ := by
    rw [String.next_of_valid, String.utf8Len_append (l ++ m)]
    simp
  have hend : ¬ (⟨utf8Len (l ++ m)⟩ : Raw).atEnd (ofList (l ++ m ++ d :: r)) = true := by
    have hpos := d.utf8Size_pos
    rw [String.atEnd_iff, String.rawEndPos_ofList, String.utf8Len_append, String.utf8Len_cons,
      Raw.mk_le_mk]
    omega
  have hsep : Raw.get (ofList [c]) 0 = c := String.get_of_valid [] [c]
  have hsepNext : Raw.next (ofList [c]) 0 = ⟨c.utf8Size⟩ := by
    have := String.next_of_valid [] c []
    simpa using this
  have hsepEnd : Raw.atEnd (ofList [c]) ⟨c.utf8Size⟩ = true := by
    rw [String.atEnd_iff, String.rawEndPos_ofList, Raw.mk_le_mk]
    simp
  rw [List.headD_cons] at hget
  rw [String.splitOnAux, if_neg hend, hget, hsep, hsepNext]
  by_cases h : d = c
  · subst h
    rw [if_pos rfl, if_pos (beq_self_eq_true d)]
    dsimp only
    rw [if_pos hsepEnd, hnext]
    have hback : (⟨utf8Len (l ++ m ++ [d])⟩ : Raw).unoffsetBy ⟨d.utf8Size⟩ =
        ⟨utf8Len l + utf8Len m⟩ := by
      simp only [Raw.unoffsetBy, String.utf8Len_append, String.utf8Len_cons, String.utf8Len_nil,
        Raw.mk.injEq]
      omega
    rw [hback, hextract]
  · rw [if_neg h, if_neg (by simpa using h)]
    have hstay : (⟨utf8Len (l ++ m)⟩ : Raw).unoffsetBy 0 = ⟨utf8Len (l ++ m)⟩ := by
      simp [Raw.unoffsetBy]
    rw [hstay, hnext]

theorem splitOnAux_eq (c : Char) (l m r : List Char) (acc : List String) :
    (ofList (l ++ m ++ r)).splitOnAux (ofList [c]) ⟨utf8Len l⟩ ⟨utf8Len (l ++ m)⟩ 0 acc =
      acc.reverse ++ (List.splitOnPPrepend (· == c) r m.reverse).map ofList := by
  induction r generalizing l m acc with
  | nil =>
    have hlast : List.splitOnPPrepend (· == c) [] m.reverse = [m] := by
      simp [List.splitOnPPrepend]
    rw [List.append_nil, splitOnAux_nil, hlast, List.map_singleton]
  | cons d r ih =>
    rw [splitOnAux_cons, List.splitOnPPrepend_cons_eq_if, List.reverse_reverse]
    by_cases h : d = c
    · have hrest := ih (l ++ m ++ [d]) [] (ofList m :: acc)
      rw [if_pos h, if_pos (by simpa using h), List.splitOnP_eq_splitOnPPrepend]
      simpa using hrest
    · have hrest := ih l (m ++ [d]) acc
      rw [if_neg h, if_neg (by simpa using h)]
      simpa using hrest

theorem splitOn_char (c : Char) (s : String) :
    s.splitOn (ofList [c]) = (s.toList.splitOn c).map ofList := by
  have hsep : ¬ (ofList [c] == "") = true := by simp
  rw [String.splitOn, if_neg hsep, List.splitOn_eq_splitOnP, List.splitOnP_eq_splitOnPPrepend]
  simpa using splitOnAux_eq c [] [] s.toList []

/-! ## Segments -/

theorem not_mem_of_mem_splitOn {c : Char} {cs piece : List Char} (h : piece ∈ cs.splitOn c) :
    c ∉ piece := by
  induction cs generalizing piece with
  | nil =>
    rw [List.splitOn_nil, List.mem_singleton] at h
    simp [h]
  | cons d cs ih =>
    rw [List.splitOn_cons_eq_if_modifyHead] at h
    obtain ⟨first, rest, hsplit⟩ := List.exists_cons_of_ne_nil (List.splitOn_ne_nil c cs)
    rw [hsplit] at h ih
    split at h
    · rcases List.mem_cons.mp h with rfl | hmem
      · simp
      · exact ih hmem
    · rename_i hne
      rw [List.modifyHead_cons] at h
      rcases List.mem_cons.mp h with rfl | hmem
      · rw [List.mem_cons, not_or]
        exact ⟨fun heq => hne (by simp [heq]), ih List.mem_cons_self⟩
      · exact ih (List.mem_cons_of_mem _ hmem)

/-- A text comes apart into segments at a sign, which stands between any two of them and in none. -/
structure Segments (sign : Char) (text : String) (segments : List String) : Prop where
  some : segments ≠ []
  free : ∀ s ∈ segments, sign ∉ s.toList
  joined : (ofList [sign]).intercalate segments = text

theorem segments_iff {sign : Char} {text : String} {segments : List String} :
    Segments sign text segments ↔ segments = text.splitOn (ofList [sign]) := by
  rw [splitOn_char]
  constructor
  · rintro ⟨hsome, hfree, rfl⟩
    have hmap : segments.map String.toList ≠ [] := by simpa using hsome
    have hpieces : ∀ piece ∈ segments.map String.toList, sign ∉ piece := by simpa using hfree
    rw [String.toList_intercalate, String.toList_ofList, List.splitOn_intercalate sign hpieces hmap]
    simp
  · rintro rfl
    refine ⟨by simp [List.splitOn_ne_nil], ?_, ?_⟩
    · simpa using fun piece hpiece => not_mem_of_mem_splitOn hpiece
    · rw [← String.toList_inj, String.toList_intercalate, String.toList_ofList]
      simp [Function.comp_def, List.intercalate_splitOn]

end PortTunnel.Text
