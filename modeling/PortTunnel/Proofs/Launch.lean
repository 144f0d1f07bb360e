import PortTunnel.Launch
import PortTunnel.Proofs.Decimal.Word

/-!
# What counts as a launch

A worker looks at its role first, then at its payload, then at its parent, and says what is wrong with
the first of them that is not in order. So it never starts for a tunnel of another kind than its role,
whatever is wrong besides.

* `Launch.Tasked`: a payload that tells a worker of some kind what to do.
* `Launch.Verdict`: what is made of a role, a payload and a parent, in all the ways there are.
* `Launch.parse_iff_verdict`: exactly this is made of them.
-/

namespace PortTunnel.Launch

open Decimal.Word (Numeral Misread parse_eq_ok_iff parse_eq_error_iff)

variable {role : String} {payload parent : Option String} {k : Kind} {a : Assignment} {e : Error}

/-- A payload that holds an assignment of a kind. -/
def Tasked (k : Kind) (payload : Option String) (a : Assignment) : Prop :=
  ∃ encoded, payload = some encoded ∧ Payload.decode encoded = .ok a ∧ a.kind = k

/-- What is made of a role, a payload and a parent. The first of the checks that fails decides, so each
way out says of the checks before it that they went well, and of those behind it nothing. -/
inductive Verdict (role : String) (payload parent : Option String) : Except Error Launch → Prop where
  | unknown (hrole : ∀ k : Kind, role ≠ k.marker) :
    Verdict role payload parent (.error (.config s!"unknown tunnel type: {role}"))
  | missing (k : Kind) (hrole : role = k.marker) (hpayload : payload = none) :
    Verdict role payload parent (.error (.decode s!"{payloadVariable} is not set"))
  | undecodable (k : Kind) (encoded text : String) (hrole : role = k.marker)
      (hpayload : payload = some encoded)
      (hdecode : Payload.decode (α := Assignment) encoded = .error (.decode text)) :
    Verdict role payload parent (.error (.decode text))
  | mismatched (k : Kind) (encoded : String) (a : Assignment) (hrole : role = k.marker)
      (hpayload : payload = some encoded) (hdecode : Payload.decode encoded = .ok a)
      (hkind : a.kind ≠ k) :
    Verdict role payload parent
      (.error (.decode s!"payload is for {a.kind.marker} but role is {k.marker}"))
  | orphaned (k : Kind) (a : Assignment) (hrole : role = k.marker) (htask : Tasked k payload a)
      (hparent : parent = none) :
    Verdict role payload parent (.error (.config "missing parent pid argument"))
  | misread (k : Kind) (a : Assignment) (text : String) (f : Decimal.Word.Fault)
      (hrole : role = k.marker) (htask : Tasked k payload a) (hparent : parent = some text)
      (hfault : Misread UInt32.size text.toList f) :
    Verdict role payload parent (.error (.config s!"invalid parent pid: {f.message}"))
  | accepted (k : Kind) (a : Assignment) (text : String) (n : UInt32) (hrole : role = k.marker)
      (htask : Tasked k payload a) (hparent : parent = some text)
      (hnumber : Numeral text.toList n.toNat) :
    Verdict role payload parent (.ok ⟨k, a, n⟩)

/-! ## The checks by themselves -/

theorem parseRole_eq_ok_iff : parseRole role = .ok k ↔ role = k.marker := by
  rw [← Kind.ofMarker?_eq_some_iff, parseRole]
  cases Kind.ofMarker? role <;> simp

theorem parseRole_of_unknown (h : ∀ k : Kind, role ≠ k.marker) :
    parseRole role = .error (.config s!"unknown tunnel type: {role}") := by
  have hnone : Kind.ofMarker? role = none :=
    Option.eq_none_iff_forall_ne_some.mpr fun k hk => h k (Kind.ofMarker?_eq_some_iff.mp hk)
  rw [parseRole, hnone]

/-- Whatever is wrong with a payload, it is refused as one that cannot be decoded. -/
theorem decode_error {encoded : String} (h : Payload.decode (α := Assignment) encoded = .error e) :
    ∃ text, e = .decode text := by
  rw [Payload.decode] at h
  cases hdecode : Payload.decode? (α := Assignment) encoded with
  | ok a =>
    rw [hdecode] at h
    cases h
  | error f =>
    rw [hdecode] at h
    exact ⟨f.message, (Except.error.inj h).symm⟩

theorem parsePayload_of_tasked (h : Tasked k payload a) : parsePayload k payload = .ok a := by
  obtain ⟨encoded, rfl, hdecode, hkind⟩ := h
  simp only [parsePayload, hdecode, bind, Except.bind, hkind, if_true]

theorem parsePayload_of_error {encoded : String}
    (h : Payload.decode (α := Assignment) encoded = .error e) :
    parsePayload k (some encoded) = .error e := by
  simp only [parsePayload, h, bind, Except.bind]

theorem parsePayload_of_mismatch {encoded : String} (h : Payload.decode encoded = .ok a)
    (hkind : a.kind ≠ k) : parsePayload k (some encoded) =
      .error (.decode s!"payload is for {a.kind.marker} but role is {k.marker}") := by
  simp only [parsePayload, h, bind, Except.bind, hkind, if_false]

theorem parseParent_of_numeral {text : String} {n : UInt32} (h : Numeral text.toList n.toNat) :
    parseParent (some text) = .ok n := by
  have hread : Decimal.Word.parse UInt32.size text = .ok n.toNat :=
    (parse_eq_ok_iff (by decide)).mpr ⟨h, n.toNat_lt⟩
  rw [parseParent, hread]
  exact congrArg Except.ok n.ofNat_toNat

theorem parseParent_of_misread {text : String} {f : Decimal.Word.Fault}
    (h : Misread UInt32.size text.toList f) :
    parseParent (some text) = .error (.config s!"invalid parent pid: {f.message}") := by
  have hread : Decimal.Word.parse UInt32.size text = .error f :=
    (parse_eq_error_iff (by decide)).mpr h
  rw [parseParent, hread]

/-! ## All of them -/

/-- With a role and a payload that are in order, it is for the parent to decide. -/
theorem parse_of_tasked (hrole : role = k.marker) (htask : Tasked k payload a) :
    parse role payload parent = (parseParent parent).map (⟨k, a, ·⟩) := by
  rw [parse, parseRole_eq_ok_iff.mpr hrole]
  simp only [bind, Except.bind, parsePayload_of_tasked htask]
  cases parseParent parent <;> rfl

theorem parse_of_payload_error (hrole : role = k.marker) (h : parsePayload k payload = .error e) :
    parse role payload parent = .error e := by
  rw [parse, parseRole_eq_ok_iff.mpr hrole]
  simp only [bind, Except.bind, h]

theorem parse_of_verdict {result : Except Error Launch} (h : Verdict role payload parent result) :
    parse role payload parent = result := by
  cases h with
  | unknown hrole =>
    rw [parse, parseRole_of_unknown hrole]
    rfl
  | missing k hrole hpayload =>
    subst hpayload
    exact parse_of_payload_error hrole rfl
  | undecodable k encoded text hrole hpayload hdecode =>
    subst hpayload
    exact parse_of_payload_error hrole (parsePayload_of_error hdecode)
  | mismatched k encoded a hrole hpayload hdecode hkind =>
    subst hpayload
    exact parse_of_payload_error hrole (parsePayload_of_mismatch hdecode hkind)
  | orphaned k a hrole htask hparent =>
    rw [parse_of_tasked hrole htask, hparent]
    rfl
  | misread k a text f hrole htask hparent hfault =>
    rw [parse_of_tasked hrole htask, hparent, parseParent_of_misread hfault]
    rfl
  | accepted k a text n hrole htask hparent hnumber =>
    rw [parse_of_tasked hrole htask, hparent, parseParent_of_numeral hnumber]
    rfl

/-- A payload is for a worker of the kind, or else there is a verdict without a look at the parent. -/
theorem tasked_or_verdict (payload parent : Option String) (hrole : role = k.marker) :
    (∃ a, Tasked k payload a) ∨ ∃ e, Verdict role payload parent (.error e) := by
  cases payload with
  | none => exact .inr ⟨_, .missing k hrole rfl⟩
  | some encoded =>
    cases hdecode : Payload.decode (α := Assignment) encoded with
    | error e =>
      obtain ⟨text, rfl⟩ := decode_error hdecode
      exact .inr ⟨_, .undecodable k encoded text hrole rfl hdecode⟩
    | ok a =>
      by_cases hkind : a.kind = k
      · exact .inl ⟨a, encoded, rfl, hdecode, hkind⟩
      · exact .inr ⟨_, .mismatched k encoded a hrole rfl hdecode hkind⟩

theorem exists_verdict (role : String) (payload parent : Option String) :
    ∃ result, Verdict role payload parent result := by
  by_cases hknown : ∃ k : Kind, role = k.marker
  · obtain ⟨k, hrole⟩ := hknown
    obtain ⟨a, htask⟩ | ⟨e, hverdict⟩ := tasked_or_verdict payload parent hrole
    · cases parent with
      | none => exact ⟨_, .orphaned k a hrole htask rfl⟩
      | some text =>
        cases hread : Decimal.Word.parse UInt32.size text with
        | error f =>
          exact ⟨_, .misread k a text f hrole htask rfl ((parse_eq_error_iff (by decide)).mp hread)⟩
        | ok n =>
          obtain ⟨hnumber, hlt⟩ := (parse_eq_ok_iff (by decide)).mp hread
          refine ⟨_, .accepted k a text (UInt32.ofNat n) hrole htask rfl ?_⟩
          rwa [UInt32.toNat_ofNat_of_lt' hlt]
    · exact ⟨_, hverdict⟩
  · exact ⟨_, .unknown fun k hrole => hknown ⟨k, hrole⟩⟩

/-- A process is started for exactly the launches that are in order, and refuses all others for the
first thing that is not. -/
theorem parse_iff_verdict (role : String) (payload parent : Option String)
    (result : Except Error Launch) :
    parse role payload parent = result ↔ Verdict role payload parent result := by
  refine ⟨?_, parse_of_verdict⟩
  rintro rfl
  obtain ⟨result, hverdict⟩ := exists_verdict role payload parent
  rwa [parse_of_verdict hverdict]

end PortTunnel.Launch
