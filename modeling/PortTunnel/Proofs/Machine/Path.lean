import PortTunnel.Machine.Files

/-!
# Paths of one more step

A name without a slash that is joined to a path leads one step further down than the path, wherever
that leads.

* `Path.IsStep`: a name that is a step down.
* `Path.steps_join`: the steps of a path with one more.
* `Files.Leads`: a path leads to a directory.
* `Files.resolve_join_eq_ok_iff`: a path with one more step leads to a child of that directory.
-/

namespace PortTunnel.Machine

namespace Path

/-- A name of something in a directory. -/
structure IsStep (name : String) : Prop where
  noSlash : '/' ∉ name.toList
  noNul : '\x00' ∉ name.toList
  nonempty : name ≠ ""
  notHere : name ≠ "."
  notUp : name ≠ ".."

/-! ## Pieces -/

theorem pieces_ne_nil (cs : List Char) : pieces cs ≠ [] := by
  cases cs with
  | nil => exact List.cons_ne_nil _ _
  | cons c cs =>
    rw [pieces]
    split
    · exact List.cons_ne_nil _ _
    · split <;> exact List.cons_ne_nil _ _

theorem pieces_of_not_mem {cs : List Char} (h : '/' ∉ cs) : pieces cs = [cs] := by
  induction cs with
  | nil => rfl
  | cons c cs ih =>
    rw [List.mem_cons, not_or] at h
    rw [pieces, if_neg (Ne.symm h.1), ih h.2]

theorem pieces_append_slash (xs ys : List Char) :
    pieces (xs ++ '/' :: ys) = pieces xs ++ pieces ys := by
  induction xs with
  | nil => rfl
  | cons c xs ih =>
    rw [List.cons_append, pieces, pieces]
    by_cases hc : c = '/'
    · rw [if_pos hc, if_pos hc, ih, List.cons_append]
    · rw [if_neg hc, if_neg hc, ih]
      cases hpieces : pieces xs with
      | nil => exact absurd hpieces (pieces_ne_nil xs)
      | cons p ps => rfl

/-! ## Steps -/

/-- The pieces that are steps. -/
def stepsOf (ps : List (List Char)) : List String :=
  (ps.map String.ofList).filter fun s => s ≠ "" && s ≠ "."

theorem steps_eq (path : String) : steps path = stepsOf (pieces path.toList) := rfl

theorem stepsOf_append (ps qs : List (List Char)) : stepsOf (ps ++ qs) = stepsOf ps ++ stepsOf qs := by
  simp [stepsOf]

theorem stepsOf_name {name : String} (h : IsStep name) : stepsOf [name.toList] = [name] := by
  simp [stepsOf, h.nonempty, h.notHere]

theorem not_isAbsolute {name : String} (h : IsStep name) : isAbsolute name = false := by
  rw [isAbsolute, decide_eq_false_iff_not]
  exact fun hhead => h.noSlash (List.mem_of_head? hhead)

/-- The ways in which a name is put behind a path. -/
theorem join_cases {name : String} (h : IsStep name) (directory : String) :
    directory = "" ∧ join directory name = name ∨
      (∃ front, directory.toList = front ++ ['/']) ∧ join directory name = directory ++ name ∨
      directory ≠ "" ∧ join directory name = directory ++ "/" ++ name := by
  rw [join, not_isAbsolute h, Bool.false_or]
  by_cases hempty : directory = ""
  · exact .inl ⟨hempty, if_pos (by rw [hempty]; rfl)⟩
  · rw [if_neg (by simpa using hempty)]
    by_cases hslash : directory.toList.getLast? = some '/'
    · exact .inr (.inl ⟨List.getLast?_eq_some_iff.mp hslash, if_pos hslash⟩)
    · exact .inr (.inr ⟨hempty, if_neg hslash⟩)

theorem steps_join {name : String} (h : IsStep name) (directory : String) :
    steps (join directory name) = steps directory ++ [name] := by
  have hname : stepsOf (pieces name.toList) = [name] := by
    rw [pieces_of_not_mem h.noSlash, stepsOf_name h]
  obtain ⟨rfl, hjoin⟩ | ⟨⟨front, hfront⟩, hjoin⟩ | ⟨-, hjoin⟩ := join_cases h directory
  · rw [hjoin, steps_eq, hname]
    rfl
  · have hjoined : (join directory name).toList = front ++ '/' :: name.toList := by
      rw [hjoin, String.toList_append, hfront, List.append_assoc]
      rfl
    rw [steps_eq, steps_eq, hjoined, hfront, pieces_append_slash, pieces_append_slash,
      stepsOf_append, stepsOf_append, hname]
    simp [stepsOf, pieces]
  · have hjoined : (join directory name).toList = directory.toList ++ '/' :: name.toList := by
      rw [hjoin, String.toList_append, String.toList_append, List.append_assoc]
      rfl
    rw [steps_eq, steps_eq, hjoined, pieces_append_slash, stepsOf_append, hname]

theorem isAbsolute_join {name : String} (h : IsStep name) {directory : String}
    (hsome : directory ≠ "") : isAbsolute (join directory name) = isAbsolute directory := by
  obtain ⟨c, cs, hdirectory⟩ : ∃ c cs, directory.toList = c :: cs :=
    List.exists_cons_of_ne_nil (by simpa using hsome)
  obtain ⟨hnone, -⟩ | ⟨-, hjoin⟩ | ⟨-, hjoin⟩ := join_cases h directory
  · exact absurd hnone hsome
  · simp [hjoin, isAbsolute, hdirectory]
  · simp [hjoin, isAbsolute, hdirectory]

theorem mem_join {name : String} (h : IsStep name) (directory : String) :
    '\x00' ∈ (join directory name).toList ↔ '\x00' ∈ directory.toList := by
  obtain ⟨rfl, hjoin⟩ | ⟨-, hjoin⟩ | ⟨-, hjoin⟩ := join_cases h directory <;>
    simp [hjoin, h.noNul]

theorem join_ne_empty {name : String} (h : IsStep name) (directory : String) :
    join directory name ≠ "" := by
  obtain ⟨-, hjoin⟩ | ⟨-, hjoin⟩ | ⟨-, hjoin⟩ := join_cases h directory <;>
    simp [hjoin, h.nonempty]

end Path

namespace Files

variable {fs : Files} {place start : Place} {name : String}

theorem walk_append (xs ys : List String) :
    fs.walk start (xs ++ ys) = (fs.walk start xs).bind fun place => fs.walk place ys := by
  induction xs generalizing start with
  | nil => rfl
  | cons s xs ih =>
    rw [List.cons_append, walk, walk]
    split
    · split
      · exact ih
      · split
        · rfl
        · exact ih
    · rfl
    · rfl

/-- One step down is a step out of a directory, by a name that is not too long. -/
theorem walk_step (h : Path.IsStep name) : fs.walk start [name] = .ok place ↔
    fs.find? start = some .directory ∧ name.utf8ByteSize ≤ nameLimit ∧ place = start ++ [name] := by
  rw [walk]
  cases fs.find? start with
  | none => simp
  | some entry =>
    cases entry with
    | file => simp
    | directory =>
      by_cases hlong : nameLimit < name.utf8ByteSize
      · simp [h.notUp, hlong, Nat.not_le.mpr hlong]
      · simp [h.notUp, hlong, walk, Nat.not_lt.mp hlong, eq_comm]

/-- The walk of a path begins where the path says. -/
def origin (fs : Files) (path : String) : Place := if Path.isAbsolute path then [] else fs.here

theorem resolve_eq {path : String} (hnul : '\x00' ∉ path.toList) (hsome : path ≠ "") :
    fs.resolve path = fs.walk (fs.origin path) (Path.steps path) := by
  rw [resolve, if_neg (by simpa using hnul), if_neg (by simpa using hsome), origin]

theorem resolve_of_nul {path : String} (hnul : '\x00' ∈ path.toList) :
    fs.resolve path = .error .nulInPath := by
  rw [resolve, if_pos (by simpa using hnul)]

/-- A path leads to a directory. The empty path leads to the one that paths start from. -/
def Leads (fs : Files) (path : String) (place : Place) : Prop :=
  (if path = "" then .ok fs.here else fs.resolve path) = .ok place ∧
    fs.find? place = some .directory

/-- One more step is taken from where a path leads. -/
theorem resolve_join (h : Path.IsStep name) (directory : String) :
    fs.resolve (Path.join directory name) =
      (if directory = "" then .ok fs.here else fs.resolve directory).bind fun parent =>
        fs.walk parent [name] := by
  by_cases hempty : directory = ""
  · have hjoin : Path.join "" name = name := by simp [Path.join]
    have hsteps : Path.steps name = [name] := by
      have := Path.steps_join h ""
      rwa [hjoin] at this
    rw [if_pos hempty, hempty, hjoin, resolve_eq h.noNul h.nonempty, origin, hsteps,
      Path.not_isAbsolute h]
    rfl
  · rw [if_neg hempty]
    by_cases hnul : '\x00' ∈ directory.toList
    · rw [resolve_of_nul hnul, resolve_of_nul ((Path.mem_join h directory).mpr hnul)]
      rfl
    · rw [resolve_eq hnul hempty,
        resolve_eq (mt (Path.mem_join h directory).mp hnul) (Path.join_ne_empty h directory),
        Path.steps_join h, walk_append, origin, origin, Path.isAbsolute_join h hempty]

/-- With one more step, a path leads to a child of the directory that it led to. -/
theorem resolve_join_eq_ok_iff (h : Path.IsStep name) (directory : String) :
    fs.resolve (Path.join directory name) = .ok place ↔
      ∃ parent, fs.Leads directory parent ∧ name.utf8ByteSize ≤ nameLimit ∧
        place = parent ++ [name] := by
  rw [resolve_join h]
  unfold Leads
  cases (if directory = "" then .ok fs.here else fs.resolve directory : Except Fault Place) with
  | error f => simp [Except.bind]
  | ok parent =>
    rw [Except.bind, walk_step h]
    constructor
    · rintro ⟨hparent, hshort, hplace⟩
      exact ⟨parent, ⟨rfl, hparent⟩, hshort, hplace⟩
    · rintro ⟨_, ⟨⟨⟩, hparent⟩, hshort, hplace⟩
      exact ⟨hparent, hshort, hplace⟩

end Files

end PortTunnel.Machine
