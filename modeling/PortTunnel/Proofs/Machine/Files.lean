import PortTunnel.Machine.Files

/-!
# Files that grow

Directories that are made and bytes that are added take nothing away: what was a directory stays
one, and a file keeps what it held at its beginning.

* `Files.held`: the bytes at a place.
* `Files.Grown`: what one tree of files has of another; `Grown.resolve`: paths keep their places.
* `grown_makeDirectories`: directories that are made change no file.
* `Files.Stands`: a path leads to a file; `stands_of_append`: what adding to a file leaves.
-/

namespace PortTunnel.Machine.Files

variable {fs next after : Files} {place other : Place} {entry found : Entry}
  {bytes more : List UInt8} {executable : Bool} {path : String}

/-- The bytes of the file at a place; none if no file is there. -/
def held (fs : Files) (place : Place) : List UInt8 :=
  match fs.find? place with
  | some (.file bytes _) => bytes
  | _ => []

theorem held_of_find? (h : fs.find? place = some (.file bytes executable)) :
    fs.held place = bytes := by
  rw [held, h]

/-! ## One entry -/

theorem find?_put_self (entries : List (Place × Entry)) :
    (put place entry entries).find? (·.1 = place) = some (place, entry) := by
  induction entries with
  | nil => simp [put]
  | cons e rest ih => by_cases h : e.1 = place <;> simp [put, h, ih]

theorem find?_put_of_ne (h : other ≠ place) (entries : List (Place × Entry)) :
    (put place entry entries).find? (·.1 = other) = entries.find? (·.1 = other) := by
  induction entries with
  | nil => simp [put, h.symm]
  | cons e rest ih =>
    by_cases he : e.1 = place
    · simp [put, he, h.symm]
    · rw [put, if_neg he, List.find?_cons, List.find?_cons, ih]

/-- No place is lost. -/
theorem any_put (p : Place → Bool) (entries : List (Place × Entry)) (h : entries.any (p ·.1)) :
    (put place entry entries).any (p ·.1) := by
  induction entries with
  | nil => cases h
  | cons e rest ih =>
    rw [List.any_cons, Bool.or_eq_true] at h
    by_cases he : e.1 = place
    · simpa [put, he] using h
    · rw [put, if_neg he, List.any_cons, Bool.or_eq_true]
      exact h.imp_right ih

theorem find?_set_self : (fs.set place entry).find? place = some entry := by
  rw [find?, set, find?_put_self]

/-- What is somewhere else stays there, with the directories that it lies in. -/
theorem find?_set_of_ne (h : other ≠ place) (hfind : fs.find? other = some found) :
    (fs.set place entry).find? other = some found := by
  unfold find? at hfind ⊢
  rw [set, find?_put_of_ne h]
  cases hentry : fs.entries.find? (·.1 = other) with
  | some e =>
    rw [hentry] at hfind
    exact hfind
  | none =>
    rw [hentry] at hfind
    dsimp only at hfind ⊢
    split at hfind
    next habove =>
      rw [if_pos]
      · exact hfind
      · rw [Bool.or_eq_true] at habove ⊢
        exact habove.imp_right (any_put _ _)
    next => cases hfind

/-- A file is where an entry says so. -/
theorem find?_eq_file : fs.find? place = some (.file bytes executable) ↔
    ∃ e, fs.entries.find? (·.1 = place) = some e ∧ e.2 = .file bytes executable := by
  unfold find?
  cases fs.entries.find? (·.1 = place) with
  | some e => simp
  | none =>
    dsimp only
    split <;> simp

theorem held_set_of_ne (h : other ≠ place) : (fs.set place entry).held other = fs.held other := by
  have hfile : ∀ bytes executable, (fs.set place entry).find? other = some (.file bytes executable) ↔
      fs.find? other = some (.file bytes executable) := by
    intro bytes executable
    rw [find?_eq_file, find?_eq_file, set, find?_put_of_ne h]
  unfold held
  split
  next bytes executable hset => rw [(hfile bytes executable).mp hset]
  next hset =>
    split
    next bytes executable hfind => exact absurd ((hfile bytes executable).mpr hfind) (hset _ _)
    next => rfl

/-! ## Growth -/

/-- What was there is still there, files with more behind what they held. -/
structure Grown (fs after : Files) : Prop where
  here : after.here = fs.here
  directory : ∀ place, fs.find? place = some .directory → after.find? place = some .directory
  file : ∀ place bytes executable, fs.find? place = some (.file bytes executable) →
    ∃ more, after.find? place = some (.file (bytes ++ more) executable)

namespace Grown

theorem refl (fs : Files) : Grown fs fs :=
  ⟨rfl, fun _ h => h, fun _ _ _ h => ⟨[], by rw [h, List.append_nil]⟩⟩

theorem trans (h : Grown fs next) (hafter : Grown next after) : Grown fs after where
  here := hafter.here.trans h.here
  directory place hplace := hafter.directory place (h.directory place hplace)
  file place bytes executable hplace := by
    obtain ⟨more, hmore⟩ := h.file place bytes executable hplace
    obtain ⟨rest, hrest⟩ := hafter.file place _ executable hmore
    exact ⟨more ++ rest, by rw [hrest, List.append_assoc]⟩

/-- A new directory. -/
theorem set_directory (hnone : fs.find? place = none) : Grown fs (fs.set place .directory) where
  here := rfl
  directory other hother := by
    have hne : other ≠ place := by
      rintro rfl
      rw [hnone] at hother
      cases hother
    exact find?_set_of_ne hne hother
  file other bytes executable hother := by
    have hne : other ≠ place := by
      rintro rfl
      rw [hnone] at hother
      cases hother
    exact ⟨[], by rw [find?_set_of_ne hne hother, List.append_nil]⟩

/-- A file in the place of the one that it continues, or a new one. -/
theorem set_file (hdirectory : fs.find? place ≠ some .directory)
    (hfile : ∀ old x, fs.find? place = some (.file old x) → x = executable) :
    Grown fs (fs.set place (.file (fs.held place ++ more) executable)) where
  here := rfl
  directory other hother := by
    have hne : other ≠ place := by
      rintro rfl
      exact hdirectory hother
    exact find?_set_of_ne hne hother
  file other old x hother := by
    by_cases hne : other = place
    · subst hne
      rw [held_of_find? hother, hfile old x hother]
      exact ⟨more, find?_set_self⟩
    · exact ⟨[], by rw [find?_set_of_ne hne hother, List.append_nil]⟩

theorem held (h : Grown fs after) (place : Place) : fs.held place <+: after.held place := by
  cases hfind : fs.find? place with
  | none =>
    rw [Files.held, hfind]
    exact List.nil_prefix
  | some entry =>
    cases entry with
    | directory =>
      rw [Files.held, hfind]
      exact List.nil_prefix
    | file bytes executable =>
      obtain ⟨more, hmore⟩ := h.file place bytes executable hfind
      rw [held_of_find? hfind, held_of_find? hmore]
      exact List.prefix_append bytes more

theorem walk (h : Grown fs after) {steps : List String} {start : Place}
    (hwalk : fs.walk start steps = .ok place) : after.walk start steps = .ok place := by
  induction steps generalizing start with
  | nil => exact hwalk
  | cons s rest ih =>
    rw [Files.walk] at hwalk ⊢
    split at hwalk
    next hfind =>
      rw [h.directory start hfind]
      dsimp only
      split at hwalk
      next hup =>
        rw [if_pos hup]
        exact ih hwalk
      next hup =>
        rw [if_neg hup]
        split at hwalk
        next => cases hwalk
        next hlong =>
          rw [if_neg hlong]
          exact ih hwalk
    next => cases hwalk
    next => cases hwalk

/-- A path leads where it led. -/
theorem resolve (h : Grown fs after) (hresolve : fs.resolve path = .ok place) :
    after.resolve path = .ok place := by
  unfold Files.resolve at hresolve ⊢
  split at hresolve
  next => cases hresolve
  next hnul =>
    rw [if_neg hnul]
    split at hresolve
    next => cases hresolve
    next hempty =>
      rw [if_neg hempty, h.here]
      exact h.walk hresolve

end Grown

/-! ## Directories -/

theorem grown_makeSteps {steps : List String} (h : fs.makeSteps place steps = .ok after) :
    Grown fs after ∧ ∀ other, after.held other = fs.held other := by
  fun_induction makeSteps fs place steps with
  | case1 fs place =>
    cases h
    exact ⟨.refl _, fun _ => rfl⟩
  | case2 fs place rest ih => exact ih h
  | case3 fs place s rest hup next hdirectory ih => exact ih h
  | case4 => cases h
  | case5 fs place s rest hup next hnone ih =>
    obtain ⟨hgrown, hheld⟩ := ih h
    refine ⟨(Grown.set_directory hnone).trans hgrown, fun other => (hheld other).trans ?_⟩
    by_cases hne : other = next
    · rw [hne, held, held, find?_set_self, hnone]
    · exact held_set_of_ne hne

theorem grown_makeDirectories (h : fs.makeDirectories path = .ok after) :
    Grown fs after ∧ ∀ other, after.held other = fs.held other := by
  unfold makeDirectories at h
  dsimp only at h
  split at h
  next => cases h
  next =>
    split at h
    next => cases h
    next => exact grown_makeSteps h

/-! ## Files at paths -/

/-- A path leads to a file with these bytes. -/
def Stands (fs : Files) (path : String) (place : Place) (bytes : List UInt8) : Prop :=
  fs.resolve path = .ok place ∧ ∃ executable, fs.find? place = some (.file bytes executable)

namespace Stands

theorem held (h : fs.Stands path place bytes) : fs.held place = bytes :=
  h.2.elim fun _ hfind => held_of_find? hfind

theorem read (h : fs.Stands path place bytes) : fs.read path = .ok bytes := by
  obtain ⟨hresolve, executable, hfind⟩ := h
  simp only [Files.read, open?, bind, Except.bind, hresolve, hfind]

/-- More can be added to a file that stands there. -/
theorem append (h : fs.Stands path place bytes) (more : List UInt8) :
    ∃ after, fs.append path more = .ok after := by
  obtain ⟨hresolve, executable, hfind⟩ := h
  simp only [Files.append, target, bind, Except.bind, hresolve, hfind]
  exact ⟨_, rfl⟩

end Stands

/-- A file that can be written is a file already, or nothing. -/
theorem target_eq_ok (h : fs.target path = .ok (place, bytes, executable)) :
    fs.resolve path = .ok place ∧ bytes = fs.held place ∧ fs.find? place ≠ some .directory ∧
      ∀ old x, fs.find? place = some (.file old x) → x = executable := by
  unfold target at h
  simp only [bind, Except.bind] at h
  split at h
  next => cases h
  next found hresolve =>
    split at h
    next old x hfind =>
      cases h
      refine ⟨hresolve, (held_of_find? hfind).symm, by rw [hfind]; nofun, fun _ _ hold => ?_⟩
      rw [hfind] at hold
      cases hold
      rfl
    next => cases h
    next hnone =>
      split at h
      next =>
        cases h
        refine ⟨hresolve, by rw [held, hnone], by rw [hnone]; nofun, fun _ _ hold => ?_⟩
        rw [hnone] at hold
        cases hold
      next => cases h
      next => cases h

/-- Bytes are added to what the file held, and no other file changes. -/
theorem stands_of_append (h : fs.append path more = .ok after) :
    Grown fs after ∧ ∃ place, after.Stands path place (fs.held place ++ more) ∧
      ∀ other, other ≠ place → after.held other = fs.held other := by
  unfold append at h
  cases htarget : fs.target path with
  | error f =>
    rw [htarget] at h
    cases h
  | ok t =>
    obtain ⟨place, bytes, executable⟩ := t
    obtain ⟨hresolve, rfl, hdirectory, hfile⟩ := target_eq_ok htarget
    rw [htarget] at h
    cases h
    have hgrown : Grown fs (fs.set place (.file (fs.held place ++ more) executable)) :=
      .set_file hdirectory hfile
    exact ⟨hgrown, place, ⟨hgrown.resolve hresolve, executable, find?_set_self⟩,
      fun _ => held_set_of_ne⟩

end PortTunnel.Machine.Files
