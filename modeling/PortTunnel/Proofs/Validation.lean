import PortTunnel.Proofs.Opened

/-!
# What settings are checked for

The checks of settings are a list of requirements, of which the first that is not met is reported.
What a worker cannot do without is on the list, but for the host that an SSH tunnel listens on.

* `Says`: a text of which something is left once it is trimmed.
* `Settings.requirements`: the list; `Settings.validate_eq`.
* `Settings.Complete`, `Settings.Usable`: what a worker cannot do without, the local host apart or
  not.
* `Settings.ValidateExact`: what the check of settings means.
* `Settings.validate_exact`: it means that for all settings; `Settings.blank_host_passes` is the
  gap.
-/

namespace PortTunnel

/-! ## Requirements -/

/-- A text of which something is left once it is trimmed. -/
def Says (text : String) : Prop := Text.trim text ≠ ""

theorem isBlankText_eq_false {text : String} : Text.isBlankText text = false ↔ Says text := by
  rw [Says, Text.trim, ne_eq, String.ofList_eq_empty_iff, Text.trimChars_eq_nil_iff,
    Text.isBlankText, Bool.not_eq_true]

/-- Something without which settings are refused, under the name by which it is asked for. -/
inductive Requirement where
  | text (field value : String)
  | port (field : String) (port : UInt16)

namespace Requirement

def Met : Requirement → Prop
  | .text _ value => Says value
  | .port _ number => number ≠ 0

@[simp] theorem met_text {field value : String} : (text field value).Met ↔ Says value := .rfl

@[simp] theorem met_port {field : String} {number : UInt16} :
    (port field number).Met ↔ number ≠ 0 := .rfl

def check : Requirement → Except Error Unit
  | .text field value => requireText field value
  | .port field number => requirePort field number

def complaint : Requirement → String
  | .text field _ => s!"{field} is required"
  | .port field _ => s!"{field} must be non-zero"

variable {r : Requirement} {rs : List Requirement}

theorem check_of_met (h : r.Met) : r.check = .ok () := by
  cases r with
  | text field value =>
    rw [check, requireText, isBlankText_eq_false.mpr h]
    rfl
  | port field number => rw [check, requirePort, if_neg h]

theorem check_of_not_met (h : ¬ r.Met) : r.check = .error (.config r.complaint) := by
  cases r with
  | text field value =>
    rw [Met, ← isBlankText_eq_false, Bool.not_eq_false] at h
    rw [check, requireText, if_pos h, complaint]
  | port field number => rw [check, requirePort, if_pos (Decidable.not_not.mp h), complaint]

theorem forM_of_met (h : ∀ r ∈ rs, r.Met) : forM rs check = .ok () := by
  induction rs with
  | nil => rfl
  | cons r rest ih =>
    rw [List.forM_cons, check_of_met (h r List.mem_cons_self)]
    exact ih fun r hr => h r (List.mem_cons_of_mem _ hr)

/-- The first requirement that is not met, which is complained of. -/
def FirstUnmet (rs : List Requirement) (r : Requirement) : Prop :=
  ∃ before after, rs = before ++ r :: after ∧ (∀ b ∈ before, b.Met) ∧ ¬ r.Met

theorem forM_of_firstUnmet (h : FirstUnmet rs r) :
    forM rs check = .error (.config r.complaint) := by
  obtain ⟨before, after, rfl, hbefore, hr⟩ := h
  induction before with
  | nil =>
    rw [List.nil_append, List.forM_cons, check_of_not_met hr]
    rfl
  | cons b before ih =>
    rw [List.cons_append, List.forM_cons, check_of_met (hbefore b List.mem_cons_self)]
    exact ih fun b hb => hbefore b (List.mem_cons_of_mem _ hb)

theorem met_or_firstUnmet (rs : List Requirement) : (∀ r ∈ rs, r.Met) ∨ ∃ r, FirstUnmet rs r := by
  induction rs with
  | nil => exact .inl nofun
  | cons r rest ih =>
    by_cases hr : r.Met
    · obtain hall | ⟨unmet, before, after, rfl, hbefore, hunmet⟩ := ih
      · exact .inl (List.forall_mem_cons.mpr ⟨hr, hall⟩)
      · exact .inr ⟨unmet, r :: before, after, rfl, List.forall_mem_cons.mpr ⟨hr, hbefore⟩, hunmet⟩
    · exact .inr ⟨r, [], rest, rfl, nofun, hr⟩

theorem forM_check_eq_ok : forM rs check = .ok () ↔ ∀ r ∈ rs, r.Met := by
  obtain hall | ⟨r, hr⟩ := met_or_firstUnmet rs
  · exact iff_of_true (forM_of_met hall) hall
  · rw [forM_of_firstUnmet hr]
    obtain ⟨before, after, rfl, -, hunmet⟩ := hr
    exact iff_of_false nofun fun hall => hunmet (hall r (by simp))

theorem forM_check_eq_error {e : Error} :
    forM rs check = .error e ↔ ∃ r, FirstUnmet rs r ∧ e = .config r.complaint := by
  constructor
  · intro herror
    obtain hall | ⟨r, hr⟩ := met_or_firstUnmet rs
    · rw [forM_of_met hall] at herror
      cases herror
    · rw [forM_of_firstUnmet hr] at herror
      exact ⟨r, hr, (Except.error.inj herror).symm⟩
  · rintro ⟨r, hr, rfl⟩
    exact forM_of_firstUnmet hr

end Requirement

/-! ## Settings -/

/-- The key that a bastion is shown, if it is not a password. -/
def Ssh.Credential.key? : Ssh.Credential → Option String
  | .password _ => none
  | .privateKey material => some material
  | .encryptedPrivateKey material _ => some material

def Ssh.Credential.requirements (c : Ssh.Credential) : List Requirement :=
  c.key?.toList.map (.text "ssh private key")

namespace Settings

open Requirement

/-- The requirements of settings, in the order in which they are checked. -/
def requirements : Settings → List Requirement
  | .ssh s =>
    [.text "bastion host" s.bastionHost, .text "ssh user" s.user, .text "target host" s.targetHost,
      .port "bastion port" s.bastionPort, .port "target port" s.targetPort] ++
      s.credential.requirements
  | .session s =>
    [.text "instance" s.inst, .text "region" s.region, .text "target host" s.targetHost,
      .port "target port" s.targetPort]
  | .cluster s =>
    [.text "namespace" s.nspace, .text "service" s.service, .text "local host" s.localHost,
      .port "target port" s.targetPort]

theorem validate_credential (c : Ssh.Credential) : c.validate = forM c.requirements check := by
  cases c with
  | password p => rfl
  | privateKey material => exact (bind_pure_unit (x := requireText _ material)).symm
  | encryptedPrivateKey material passphrase =>
    exact (bind_pure_unit (x := requireText _ material)).symm

theorem validate_eq (s : Settings) : s.validate = forM s.requirements check := by
  cases s with
  | ssh s => simp [validate, requirements, check, validate_credential]
  | session s => simp [validate, requirements, check]
  | cluster s => simp [validate, requirements, check]

/-- What a worker cannot do without, but for the host that it listens on. -/
def Complete : Settings → Prop
  | .ssh s =>
    Says s.bastionHost ∧ Says s.user ∧ Says s.targetHost ∧ (∀ key ∈ s.credential.key?, Says key) ∧
      s.bastionPort ≠ 0 ∧ s.targetPort ≠ 0
  | .session s => Says s.inst ∧ Says s.region ∧ Says s.targetHost ∧ s.targetPort ≠ 0
  | .cluster s => Says s.nspace ∧ Says s.service ∧ s.targetPort ≠ 0

/-- What a worker cannot do without. Sessions have a local host that is always there. -/
def Usable (s : Settings) : Prop := Says s.localHost ∧ s.Complete

theorem says_sessionHost : Says sessionHost := isBlankText_eq_false.mp (by decide)

theorem met_requirements {s : Settings} :
    (∀ r ∈ s.requirements, r.Met) ↔ s.Complete ∧ (s.kind = .cluster → Says s.localHost) := by
  cases s with
  | ssh s =>
    have hkey : (∀ r ∈ s.credential.requirements, r.Met) ↔ ∀ key ∈ s.credential.key?, Says key := by
      simp [Ssh.Credential.requirements]
    simp only [requirements, List.forall_mem_append, List.forall_mem_cons, hkey, met_text, met_port,
      Complete, kind]
    grind
  | session s => simp [requirements, Complete, kind]
  | cluster s =>
    simp only [requirements, List.forall_mem_cons, met_text, met_port, Complete, kind, localHost]
    grind

theorem validate_eq_ok {s : Settings} :
    s.validate = .ok () ↔ s.Complete ∧ (s.kind = .cluster → Says s.localHost) := by
  rw [validate_eq, forM_check_eq_ok, met_requirements]

theorem validate_eq_error {s : Settings} {e : Error} : s.validate = .error e ↔
    ∃ r, FirstUnmet s.requirements r ∧ e = .config r.complaint := by
  rw [validate_eq, forM_check_eq_error]

theorem complete_withLocalPort (port : UInt16) (s : Settings) :
    (s.withLocalPort port).Complete ↔ s.Complete := by
  cases s <;> rfl

theorem kind_withLocalPort (port : UInt16) (s : Settings) :
    (s.withLocalPort port).kind = s.kind := by
  cases s <;> rfl

theorem prepare_of_error {allocate : Allocator} {s : Settings} {e : Error}
    (h : s.validate = .error e) : prepare allocate s = .error e := by
  rw [prepare, h]
  rfl

theorem validate_of_prepare {allocate : Allocator} {s s' : Settings}
    (h : prepare allocate s = .ok s') : s.validate = .ok () := by
  cases hvalid : s.validate with
  | ok _ => rfl
  | error e =>
    rw [prepare_of_error hvalid] at h
    cases h

theorem tunnel_of_invalid {pad : Open.Launchpad} {services : Open.Services}
    {allocate : Allocator} {sys : Launcher.System} {s : Settings} {e : Error}
    (h : s.validate = .error e) : Open.tunnel pad services allocate sys s =
      { system := sys, lifecycle := {}, result := .error e } := by
  rw [Open.tunnel, prepare_of_error h]

/-! ## The whole -/

/-- What the check of settings means. -/
structure ValidateExact (s : Settings) : Prop where
  accepted : s.validate = .ok () ↔ s.Complete ∧ (s.kind = .cluster → Says s.localHost)
  /-- Settings that are refused have an error of their own, which names what they lack first. -/
  refused : ∀ e, s.validate = .error e ↔
    ∃ r, FirstUnmet s.requirements r ∧ e = .config r.complaint
  /-- Settings pass if they are of use and only then, but for an SSH tunnel that lacks a local host
  and nothing else. -/
  exact : (s.validate = .ok () ↔ s.Usable) ↔ (s.kind = .ssh → s.Complete → Says s.localHost)
  /-- Settings that are prepared lack nothing, except that those of an SSH tunnel may have no host
  to listen on. -/
  prepared : ∀ allocate s', prepare allocate s = .ok s' →
    s'.Complete ∧ (s'.kind ≠ .ssh → Says s'.localHost)
  /-- Nothing is started without a host to listen on, except for an SSH tunnel. -/
  unstarted : s.kind ≠ .ssh → ¬ Says s.localHost → ∀ pad services allocate sys, ∃ r : Requirement,
    Open.tunnel pad services allocate sys s =
      { system := sys, lifecycle := {}, result := .error (.config r.complaint) }

theorem says_localHost_of_validate {s : Settings} (hkind : s.kind ≠ .ssh)
    (h : s.validate = .ok ()) : Says s.localHost := by
  cases s with
  | ssh s => exact absurd rfl hkind
  | session s => exact says_sessionHost
  | cluster s => exact (validate_eq_ok.mp h).2 rfl

theorem validate_exact (s : Settings) : ValidateExact s where
  accepted := validate_eq_ok
  refused _ := validate_eq_error
  exact := by
    rw [validate_eq_ok, Usable]
    constructor
    · intro hexact hkind hcomplete
      have hcluster : s.kind = .cluster → Says s.localHost := by simp [hkind]
      exact (hexact.mp ⟨hcomplete, hcluster⟩).1
    · intro hssh
      constructor
      · rintro ⟨hcomplete, hcluster⟩
        refine ⟨?_, hcomplete⟩
        by_cases hkind : s.kind = .ssh
        · exact hssh hkind hcomplete
        · exact says_localHost_of_validate hkind (validate_eq_ok.mpr ⟨hcomplete, hcluster⟩)
      · rintro ⟨hhost, hcomplete⟩
        exact ⟨hcomplete, fun _ => hhost⟩
  prepared allocate s' h := by
    have hvalid := validate_of_prepare h
    obtain ⟨port, -, rfl⟩ := prepare_eq_ok h
    rw [complete_withLocalPort, kind_withLocalPort, localHost_withLocalPort]
    exact ⟨(validate_eq_ok.mp hvalid).1, fun hkind => says_localHost_of_validate hkind hvalid⟩
  unstarted hkind hhost pad services allocate sys := by
    cases hvalid : s.validate with
    | ok _ => exact absurd (says_localHost_of_validate hkind hvalid) hhost
    | error e =>
      obtain ⟨r, -, rfl⟩ := validate_eq_error.mp hvalid
      exact ⟨r, tunnel_of_invalid hvalid⟩

/-- An SSH tunnel that lacks nothing but a host to listen on. -/
def hostless : Settings := .ssh ⟨" ", 18080, "bastion", 22, "ops", .password "p", "db", 5432⟩

/-- Such settings pass the check, and a worker is started on them. -/
theorem blank_host_passes :
    hostless.validate = .ok () ∧ ¬ hostless.Usable ∧
      ∀ services allocate, ∃ h,
        (Open.tunnel Open.hospitable services allocate ⟨{}, {}⟩ hostless).result = .ok h ∧
          ¬ Says h.localHost := by
  have hblank : ¬ Says " " := by
    rw [← isBlankText_eq_false]
    decide
  exact ⟨rfl, fun husable => hblank husable.1, fun _ _ => ⟨_, rfl, hblank⟩⟩

end Settings

end PortTunnel
