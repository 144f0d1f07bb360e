import PortTunnel.Launch

/-!
# Inspection keeps secrets

The text of a value does not depend on the secrets in it.

* `Confidential`: which parts of a value are secret, at any depth.
* `Outlined`: a text into which nothing of a credential enters but the name of its kind.
* `HidesSecrets`: values that differ in secrets only are shown alike; where the kind of the
  credential differs as well, so does its name, and nothing else.
* `all_types_hide_secrets`: this holds of every type that is shown.
-/

namespace PortTunnel

open Inspect (shown record call withheld)

/-! ## What is secret -/

/-- The parts of a value that are not to be shown. -/
class Confidential (α : Type) where
  /-- The value with all its secrets blanked. -/
  bare : α → α
  /-- The value with all its secrets blanked and a credential of one and the same kind for all. -/
  kindless : α → α := bare
  /-- The name for the kind of its credential, if it has one. -/
  kindName : α → String := fun _ => ""

open Confidential (bare kindless kindName)

instance : Confidential Ssh.Credential where
  bare
    | .password _ => .password ""
    | .privateKey _ => .privateKey ""
    | .encryptedPrivateKey _ _ => .encryptedPrivateKey "" ""
  kindless _ := .password ""
  kindName
    | .password _ => "Password"
    | .privateKey _ => "PrivateKey"
    | .encryptedPrivateKey _ _ => "EncryptedPrivateKey"

instance : Confidential Ssh.Settings where
  bare s := { s with credential := bare s.credential }
  kindless s := { s with credential := kindless s.credential }
  kindName s := kindName s.credential

instance : Confidential Session.Settings where
  bare s := s

instance : Confidential Session.Grant where
  bare g := { g with tokenValue := "" }

instance : Confidential Session.Assignment where
  bare a := ⟨a.settings, bare a.grant⟩

instance : Confidential Cluster.Access where
  bare a := { a with
    password := none, token := none, clientCertificate := none, clientKey := none,
    authority := none }

instance : Confidential Cluster.Settings where
  bare s := { s with access := bare s.access }

instance : Confidential Cluster.Assignment where
  bare a := { a with settings := bare a.settings }

instance : Confidential Settings where
  bare
    | .ssh s => .ssh (bare s)
    | .session s => .session (bare s)
    | .cluster s => .cluster (bare s)
  kindless
    | .ssh s => .ssh (kindless s)
    | .session s => .session (kindless s)
    | .cluster s => .cluster (kindless s)
  kindName
    | .ssh s => kindName s
    | _ => ""

instance : Confidential Assignment where
  bare
    | .ssh s => .ssh (bare s)
    | .session w => .session (bare w)
    | .cluster w => .cluster (bare w)
  kindless
    | .ssh s => .ssh (kindless s)
    | .session w => .session (kindless w)
    | .cluster w => .cluster (kindless w)
  kindName
    | .ssh s => kindName s
    | _ => ""

instance : Confidential Launch where
  bare l := { l with assignment := bare l.assignment }
  kindless l := { l with assignment := kindless l.assignment }
  kindName l := kindName l.assignment

/-! ## A word in a text -/

/-- A text in which a word stands at one place. -/
def Places (f : String → String) : Prop := ∃ before after, ∀ word, f word = before ++ word ++ after

variable {f : String → String}

theorem places_append (text : String) : Places fun word => text ++ word :=
  ⟨text, "", fun word => by simp only [String.append_empty]⟩

theorem Places.wrap (h : Places f) (before after : String) :
    Places fun word => before ++ f word ++ after := by
  obtain ⟨first, last, hf⟩ := h
  refine ⟨before ++ first, last ++ after, fun word => ?_⟩
  simp only [hf, String.append_assoc]

theorem Places.intercalate (h : Places f) (comma : String) (pre post : List String) :
    Places fun word => comma.intercalate (pre ++ f word :: post) := by
  induction pre with
  | nil =>
    cases post with
    | nil =>
      simp only [List.nil_append, String.intercalate_singleton]
      exact h
    | cons x post =>
      simp only [List.nil_append, String.intercalate_cons_cons]
      simpa only [String.empty_append, String.append_assoc] using
        h.wrap "" (comma ++ comma.intercalate (x :: post))
  | cons x pre ih =>
    have hne (word : String) : pre ++ f word :: post ≠ [] :=
      List.append_ne_nil_of_right_ne_nil _ (List.cons_ne_nil _ _)
    simp only [List.cons_append, String.intercalate_cons_of_ne_nil (hne _)]
    simpa only [String.append_empty] using ih.wrap (x ++ comma) ""

/-- A record with the word in one of its fields. -/
theorem Places.record (h : Places f) (name field : String) (pre post : List (String × String)) :
    Places fun word => record name (pre ++ (field, f word) :: post) := by
  have hfield : Places fun word => field ++ ": " ++ f word := by
    simpa only [String.append_empty] using h.wrap (field ++ ": ") ""
  have hfields := hfield.intercalate ", " (pre.map fun g => g.1 ++ ": " ++ g.2)
    (post.map fun g => g.1 ++ ": " ++ g.2)
  simpa only [Inspect.record, List.map_append, List.map_cons] using
    hfields.wrap (name ++ " \x7b ") " \x7d"

theorem call_eq (name argument : String) : call name argument = name ++ "(" ++ argument ++ ")" :=
  rfl

theorem Places.call (h : Places f) (name : String) : Places fun word => call name (f word) := by
  simpa only [call_eq] using h.wrap (name ++ "(") ")"

theorem places_call (argument : String) : Places fun word => call word argument :=
  ⟨"", "(" ++ argument ++ ")", fun word => by
    simp only [call_eq, String.empty_append, String.append_assoc]⟩

/-! ## Texts without secrets -/

/-- A value is shown by an outline of what is public in it, with the name of the kind of its
credential at one place. -/
class Outlined (α : Type) [Inspect α] [Confidential α] where
  outline : α → String → String
  places : ∀ a, Places (outline a)
  shown_eq : ∀ a : α, shown a = outline (kindless a) (kindName a)
  kindless_bare : ∀ a : α, kindless (bare a) = kindless a
  kindName_bare : ∀ a : α, kindName (bare a) = kindName a

/-- What the texts of a type keep to themselves. -/
structure HidesSecrets (α : Type) [Inspect α] [Confidential α] : Prop where
  /-- Values that differ in secrets only are shown alike. -/
  secrets : ∀ a b : α, bare a = bare b → shown a = shown b
  /-- Values that differ in secrets and in the kind of a credential are shown alike but for the name
  of the kind. -/
  kinds : ∀ a b : α, kindless a = kindless b → ∃ before after,
    shown a = before ++ kindName a ++ after ∧ shown b = before ++ kindName b ++ after

theorem hidesSecrets_of_outlined {α : Type} [Inspect α] [Confidential α] [Outlined α] :
    HidesSecrets α where
  secrets a b h := by
    have hkindless : kindless a = kindless b := by
      rw [← Outlined.kindless_bare a, h, Outlined.kindless_bare]
    have hname : kindName a = kindName b := by
      rw [← Outlined.kindName_bare a, h, Outlined.kindName_bare]
    rw [Outlined.shown_eq a, Outlined.shown_eq b, hkindless, hname]
  kinds a b h := by
    obtain ⟨before, after, hplaces⟩ := Outlined.places (kindless b)
    refine ⟨before, after, ?_, ?_⟩
    · rw [Outlined.shown_eq a, h, hplaces]
    · rw [Outlined.shown_eq b, hplaces]

instance : Outlined Ssh.Credential where
  outline _ word := call word withheld
  places _ := places_call _
  shown_eq a := by cases a <;> rfl
  kindless_bare _ := rfl
  kindName_bare a := by cases a <;> rfl

instance : Outlined Ssh.Settings where
  outline s word := record "SshConfig" ([
    ("local_host", Inspect.text s.localHost), ("local_port", Inspect.port s.localPort),
    ("bastion_host", Inspect.text s.bastionHost), ("bastion_port", Inspect.port s.bastionPort),
    ("user", Inspect.text s.user)] ++ ("credential", Outlined.outline s.credential word) :: [
    ("target_host", Inspect.text s.targetHost), ("target_port", Inspect.port s.targetPort)])
  places s := (Outlined.places s.credential).record _ _ _ _
  shown_eq s := by
    show record "SshConfig" _ = _
    rw [Outlined.shown_eq s.credential]
    rfl
  kindless_bare _ := rfl
  kindName_bare s := Outlined.kindName_bare s.credential

/-- A type without a credential, whose text leaves its secrets out. -/
@[reducible] def Outlined.plain {α : Type} [Inspect α] [Confidential α]
    (kindless_eq : ∀ a : α, kindless a = bare a) (kindName_eq : ∀ a : α, kindName a = "")
    (bare_bare : ∀ a : α, bare (bare a) = bare a) (shown_bare : ∀ a : α, shown (bare a) = shown a) :
    Outlined α where
  outline a word := shown a ++ word
  places a := places_append (shown a)
  shown_eq a := by rw [kindless_eq, kindName_eq, shown_bare, String.append_empty]
  kindless_bare a := by rw [kindless_eq, kindless_eq, bare_bare]
  kindName_bare a := by rw [kindName_eq, kindName_eq]

instance : Outlined Session.Settings :=
  .plain (fun _ => rfl) (fun _ => rfl) (fun _ => rfl) (fun _ => rfl)

instance : Outlined Session.Grant :=
  .plain (fun _ => rfl) (fun _ => rfl) (fun _ => rfl) (fun _ => rfl)

instance : Outlined Session.Assignment :=
  .plain (fun _ => rfl) (fun _ => rfl) (fun _ => rfl) (fun _ => rfl)

instance : Outlined Cluster.Access :=
  .plain (fun _ => rfl) (fun _ => rfl) (fun _ => rfl) (fun _ => rfl)

instance : Outlined Cluster.Settings :=
  .plain (fun _ => rfl) (fun _ => rfl) (fun _ => rfl) (fun _ => rfl)

instance : Outlined Cluster.Assignment :=
  .plain (fun _ => rfl) (fun _ => rfl) (fun _ => rfl) (fun _ => rfl)

instance : Outlined Settings where
  outline s word :=
    match s with
    | .ssh s => call "Ssh" (Outlined.outline s word)
    | .session s => call "Session" (Outlined.outline s word)
    | .cluster s => call "Cluster" (Outlined.outline s word)
  places s := by
    cases s with
    | ssh s => exact (Outlined.places s).call "Ssh"
    | session s => exact (Outlined.places s).call "Session"
    | cluster s => exact (Outlined.places s).call "Cluster"
  shown_eq s := by
    cases s with
    | ssh s => exact congrArg (call "Ssh") (Outlined.shown_eq s)
    | session s => exact congrArg (call "Session") (Outlined.shown_eq s)
    | cluster s => exact congrArg (call "Cluster") (Outlined.shown_eq s)
  kindless_bare s := by cases s <;> rfl
  kindName_bare s := by
    cases s with
    | ssh s => exact Outlined.kindName_bare s
    | session s => rfl
    | cluster s => rfl

instance : Outlined Assignment where
  outline a word :=
    match a with
    | .ssh s => call "Ssh" (Outlined.outline s word)
    | .session w => call "Session" (Outlined.outline w word)
    | .cluster w => call "Cluster" (Outlined.outline w word)
  places a := by
    cases a with
    | ssh s => exact (Outlined.places s).call "Ssh"
    | session w => exact (Outlined.places w).call "Session"
    | cluster w => exact (Outlined.places w).call "Cluster"
  shown_eq a := by
    cases a with
    | ssh s => exact congrArg (call "Ssh") (Outlined.shown_eq s)
    | session w => exact congrArg (call "Session") (Outlined.shown_eq w)
    | cluster w => exact congrArg (call "Cluster") (Outlined.shown_eq w)
  kindless_bare a := by cases a <;> rfl
  kindName_bare a := by
    cases a with
    | ssh s => exact Outlined.kindName_bare s
    | session w => rfl
    | cluster w => rfl

instance : Outlined Launch where
  outline l word := record "WorkerLaunch" ([("kind", l.kind.shown)] ++
    ("payload", Outlined.outline l.assignment word) ::
    [("parent_pid", toString l.parentPid.toNat)])
  places l := (Outlined.places l.assignment).record _ _ _ _
  shown_eq l := by
    show record "WorkerLaunch" _ = _
    rw [Outlined.shown_eq l.assignment]
    rfl
  kindless_bare l :=
    congrArg (fun a => { l with assignment := a }) (Outlined.kindless_bare l.assignment)
  kindName_bare l := Outlined.kindName_bare l.assignment

theorem all_types_hide_secrets :
    HidesSecrets Settings ∧ HidesSecrets Assignment ∧ HidesSecrets Ssh.Settings ∧
      HidesSecrets Ssh.Credential ∧ HidesSecrets Session.Settings ∧ HidesSecrets Session.Grant ∧
      HidesSecrets Session.Assignment ∧ HidesSecrets Cluster.Settings ∧
      HidesSecrets Cluster.Access ∧ HidesSecrets Cluster.Assignment ∧ HidesSecrets Launch :=
  ⟨hidesSecrets_of_outlined, hidesSecrets_of_outlined, hidesSecrets_of_outlined,
    hidesSecrets_of_outlined, hidesSecrets_of_outlined, hidesSecrets_of_outlined,
    hidesSecrets_of_outlined, hidesSecrets_of_outlined, hidesSecrets_of_outlined,
    hidesSecrets_of_outlined, hidesSecrets_of_outlined⟩

end PortTunnel
