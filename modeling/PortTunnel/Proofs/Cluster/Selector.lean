import Mathlib.Data.List.Basic
import PortTunnel.Proofs.Preflight
import PortTunnel.Proofs.Text.Order
import PortTunnel.Proofs.Text.Table

/-!
# Selectors as queries

The labels of a selector are joined to one text, in which a comma stands between two labels and an
equals sign between a key and its value. Where neither occurs in a label, the text comes apart into
the labels again, so a cluster is asked for the pods of these labels and of no others.

* `Plain`: labels in which neither sign occurs.
* `queried`: the labels that a query asks for.
* `SelectorQuery`: what a selector and its query have to do with each other.
* `selectorText_invertible`: the query of plain labels is legible.
-/

namespace PortTunnel

open Text (TextTable)
open Text.Utf8 (bytes bytes_lt_bytes_iff)

namespace Cluster

/-- Labels in which neither a comma nor an equals sign occurs. -/
def Plain (labels : TextTable) : Prop :=
  ∀ e ∈ labels.entries, (',' ∉ e.1.toList ∧ '=' ∉ e.1.toList) ∧ ',' ∉ e.2.toList ∧ '=' ∉ e.2.toList

instance (labels : TextTable) : Decidable (Plain labels) :=
  inferInstanceAs (Decidable (∀ e ∈ labels.entries, _))

/-! ## Reading queries -/

/-- The label that a piece of a query asks for. -/
def labelOf? (piece : List Char) : Option (String × String) :=
  match piece.splitOn '=' with
  | [key, value] => some (.ofList key, .ofList value)
  | _ => none

/-- The labels that a query asks for, one for each piece between commas. -/
def queried (query : String) : List (String × String) :=
  (query.toList.splitOn ',').filterMap labelOf?

variable {labels others : TextTable} {e : String × String}

/-- A label as it stands in a query. -/
def piece (e : String × String) : List Char := e.1.toList ++ '=' :: e.2.toList

theorem toList_selectorText :
    (selectorText labels).toList = [','].intercalate (labels.entries.map piece) := by
  have hpiece : String.toList ∘ (fun e : String × String => e.1 ++ "=" ++ e.2) = piece := by
    funext e
    simp [piece]
  rw [selectorText, String.toList_intercalate, List.map_map, hpiece]
  rfl

theorem comma_not_mem_piece (hkey : ',' ∉ e.1.toList) (hvalue : ',' ∉ e.2.toList) :
    ',' ∉ piece e := by
  simp [piece, hkey, hvalue]

theorem splitOn_piece (hkey : '=' ∉ e.1.toList) (hvalue : '=' ∉ e.2.toList) :
    (piece e).splitOn '=' = [e.1.toList, e.2.toList] := by
  have hjoined : piece e = ['='].intercalate [e.1.toList, e.2.toList] := by simp [piece]
  rw [hjoined]
  refine List.splitOn_intercalate '=' ?_ (List.cons_ne_nil _ _)
  simp [hkey, hvalue]

theorem labelOf?_piece (hkey : '=' ∉ e.1.toList) (hvalue : '=' ∉ e.2.toList) :
    labelOf? (piece e) = some e := by
  simp [labelOf?, splitOn_piece hkey hvalue]

/-- Between commas there are the pieces of the labels. -/
theorem splitOn_selectorText (h : Plain labels) (hsome : labels.entries ≠ []) :
    (selectorText labels).toList.splitOn ',' = labels.entries.map piece := by
  rw [toList_selectorText]
  refine List.splitOn_intercalate ',' ?_ (by simpa using hsome)
  rintro cs hcs
  obtain ⟨e, he, rfl⟩ := List.mem_map.mp hcs
  exact comma_not_mem_piece (h e he).1.1 (h e he).2.1

theorem selectorText_of_nil (hnone : labels.entries = []) : selectorText labels = "" := by
  rw [selectorText, hnone]
  rfl

/-- What a query asks for is what it was made of. -/
theorem queried_selectorText (h : Plain labels) : queried (selectorText labels) = labels.entries := by
  by_cases hnone : labels.entries = []
  · rw [selectorText_of_nil hnone, hnone]
    rfl
  · rw [queried, splitOn_selectorText h hnone, List.filterMap_map]
    have hlabel : labels.entries.filterMap (labelOf? ∘ piece) = labels.entries.filterMap some :=
      List.filterMap_congr fun e he => labelOf?_piece (h e he).1.2 (h e he).2.2
    rw [hlabel, List.filterMap_some]

theorem selectorText_inj (h : Plain labels) (hothers : Plain others)
    (heq : selectorText others = selectorText labels) : others = labels := by
  have hentries : others.entries = labels.entries := by
    rw [← queried_selectorText h, ← queried_selectorText hothers, heq]
  cases others
  cases labels
  cases hentries
  rfl

/-- A label has at least its sign, so a query without letters has no labels. -/
theorem selectorText_eq_empty_iff : selectorText labels = "" ↔ labels.isEmpty := by
  rw [TextTable.isEmpty_iff]
  refine ⟨fun htext => ?_, selectorText_of_nil⟩
  have hchars : [','].intercalate (labels.entries.map piece) = [] := by
    rw [← toList_selectorText, htext]
    rfl
  cases hentries : labels.entries with
  | nil => rfl
  | cons e rest =>
    rw [hentries] at hchars
    cases rest <;> simp [piece] at hchars

/-! ## The whole -/

/-- What the labels of a selector and the query that is made of them have to do with each other. -/
structure SelectorQuery (labels : TextTable) : Prop where
  /-- There is one piece for each label, which at its sign comes apart into key and value. -/
  pieces : ¬ labels.isEmpty → ((selectorText labels).toList.splitOn ',').map (·.splitOn '=') =
    labels.entries.map fun e => [e.1.toList, e.2.toList]
  /-- The labels are asked for, and nothing else is. -/
  read : ∀ key value, (key, value) ∈ queried (selectorText labels) ↔ labels.get? key = some value
  /-- Each label is asked for once, in the order of the bytes of the keys. -/
  ordered : (queried (selectorText labels)).Pairwise fun a b => bytes a.1 < bytes b.1
  /-- Other labels make another query. -/
  apart : ∀ others, Plain others → selectorText others = selectorText labels → others = labels
  /-- The query is empty for no labels, and for no others. -/
  empty : selectorText labels = "" ↔ labels.isEmpty
  /-- Two services are looked up by the same questions only if they select by the same labels. -/
  asked : ∀ api s other t others, Selected api s labels → Selected other t others → Plain others →
    (preflight other t).1 = (preflight api s).1 → others = labels

theorem selectorText_invertible (labels : TextTable) (h : Plain labels) : SelectorQuery labels where
  pieces hsome := by
    rw [TextTable.isEmpty_iff] at hsome
    rw [splitOn_selectorText h hsome, List.map_map]
    exact List.map_congr_left fun e he => splitOn_piece (h e he).1.2 (h e he).2.2
  read key value := by rw [queried_selectorText h, TextTable.mem_entries_iff]
  ordered := by
    rw [queried_selectorText h]
    exact labels.pairwise_entries.imp bytes_lt_bytes_iff.mpr
  apart others hothers := selectorText_inj h hothers
  empty := selectorText_eq_empty_iff
  asked api s other t others hselected hother hothers hcalls := by
    rw [preflight_selected hselected, preflight_selected hother] at hcalls
    injection hcalls with _ hcalls
    injection hcalls with hpods
    injection hpods with _ hquery
    exact selectorText_inj h hothers hquery

/-- Labels with a key that begins another, without a value, and with keys that would stand the other
way round by the halves of which some encodings make a character. -/
def mixedLabels : TextTable :=
  .ofList [("😀", "b"), ("app.io/name", "web"), ("～", ""), ("app", "")]

theorem selectorText_invertible_mixed :
    Plain mixedLabels ∧ SelectorQuery mixedLabels ∧
      selectorText mixedLabels = "app=,app.io/name=web,～=,😀=b" :=
  ⟨by decide +kernel, selectorText_invertible mixedLabels (by decide +kernel), by decide +kernel⟩

end Cluster

end PortTunnel
