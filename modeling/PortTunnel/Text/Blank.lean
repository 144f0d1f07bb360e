/-!
# Blank characters

The characters that count as blank when a setting is checked or a payload is
unwrapped: the Unicode property `White_Space`.

* `isBlank`: membership in the property.
* `trim`: a text without the blanks at its two ends.
* `isBlankText`: a text of blanks only, which a required setting must not be.
-/

namespace PortTunnel.Text

/-- The 25 characters of the Unicode property `White_Space`. -/
def isBlank (c : Char) : Bool :=
  let n := c.toNat
  (9 ≤ n && n ≤ 13) || n == 0x20 || n == 0x85 || n == 0xA0 || n == 0x1680 ||
    (0x2000 ≤ n && n ≤ 0x200A) || n == 0x2028 || n == 0x2029 || n == 0x202F ||
    n == 0x205F || n == 0x3000

/-- Drops the blanks at both ends. -/
def trimChars (cs : List Char) : List Char :=
  ((cs.dropWhile isBlank).reverse.dropWhile isBlank).reverse

def trim (s : String) : String := String.ofList (trimChars s.toList)

/-- Whether nothing is left of a text once it is trimmed. -/
def isBlankText (s : String) : Bool := s.toList.all isBlank

/-! ## Small facts -/

theorem dropWhile_eq_nil_iff_all (cs : List Char) :
    cs.dropWhile isBlank = [] ↔ cs.all isBlank := by
  induction cs with
  | nil => simp
  | cons c cs ih => by_cases h : isBlank c <;> simp [h, ih]

/-- A text trims to nothing exactly when it holds blanks only. -/
theorem trimChars_eq_nil_iff (cs : List Char) : trimChars cs = [] ↔ cs.all isBlank := by
  rw [← dropWhile_eq_nil_iff_all]
  simp only [trimChars, List.reverse_eq_nil_iff]
  constructor
  · intro h
    cases hd : cs.dropWhile isBlank with
    | nil => rfl
    | cons d ds =>
      have hnot : isBlank d = false := by
        have := List.head?_dropWhile_not isBlank cs
        simpa [hd] using this
      rw [hd, dropWhile_eq_nil_iff_all] at h
      simp [hnot] at h
  · intro h
    simp [h]

end PortTunnel.Text
