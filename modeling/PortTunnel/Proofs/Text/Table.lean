import PortTunnel.Text.Table

/-!
# Looking up in tables

* `mem_entries_iff`: an entry is what is found under its key.
* `get?_insert_self`, `get?_insert_of_ne`: what is found after an entry was put into its place.
-/

namespace PortTunnel.Text.TextTable

variable {t : TextTable}

theorem pairwise_entries (t : TextTable) : t.entries.Pairwise fun a b => a.1 < b.1 :=
  (ascending_iff_pairwise t.entries).mp t.ascending

/-- A key stands once, so the first entry of a key is its only one. -/
theorem mem_entries_iff {key value : String} :
    (key, value) ∈ t.entries ↔ t.get? key = some value := by
  rw [get?]
  have hkeys := pairwise_entries t
  generalize t.entries = entries at hkeys
  induction entries with
  | nil => simp
  | cons e rest ih =>
    obtain ⟨hfirst, hrest⟩ := List.pairwise_cons.mp hkeys
    rw [List.mem_cons, List.find?_cons]
    by_cases hkey : e.1 = key
    · have hlater : (key, value) ∉ rest := fun hmem =>
        Std.lt_irrefl (hkey ▸ hfirst (key, value) hmem)
      simp [hkey, hlater, Prod.ext_iff, eq_comm]
    · have hother : (key, value) ≠ e := fun heq => hkey (congrArg Prod.fst heq).symm
      simpa [hkey, hother] using ih hrest

theorem isEmpty_iff : t.isEmpty ↔ t.entries = [] := List.isEmpty_iff

theorem get?_insert_self (t : TextTable) (key value : String) :
    (t.insert key value).get? key = some value := by
  obtain ⟨entries, ascending⟩ := t
  simp only [insert, get?]
  clear ascending
  induction entries with
  | nil => simp [insertEntry]
  | cons e rest ih =>
    rw [insertEntry]
    split
    · simp
    · rename_i hne
      split
      · simp
      · rw [List.find?_cons_of_neg (by simpa using Ne.symm hne)]
        exact ih

theorem get?_insert_of_ne {key other : String} (h : key ≠ other) (t : TextTable) (value : String) :
    (t.insert key value).get? other = t.get? other := by
  obtain ⟨entries, ascending⟩ := t
  simp only [insert, get?]
  clear ascending
  induction entries with
  | nil => simp [insertEntry, h]
  | cons e rest ih =>
    rw [insertEntry]
    split
    · rename_i heq
      have hne : e.1 ≠ other := heq ▸ h
      simp [h, hne]
    · split
      · simp [h]
      · by_cases he : e.1 = other
        · simp [he]
        · simpa [he] using ih

end PortTunnel.Text.TextTable
