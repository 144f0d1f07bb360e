import PortTunnel.Proofs.Payload
import PortTunnel.Proofs.Schema.Flaw
import PortTunnel.Proofs.Schema.Variation

/-!
# Payloads in other forms

A payload may have been written by another version of the program: in another order, with members
that are not known here, and without those that have their usual value. It is the same payload; one
in which a member stands twice, or a required one is not there, is none.

* `Json.Stands`: a text of a value, whatever its layout.
* `Tolerant`: a type for which a field that is not there has its default.
* `ReadsVariations`: what is owed to the payloads of a type in other forms.
* `Payload.all_types_read_variations`: every type that a payload is made of owes it.
-/

namespace PortTunnel

open Schema Text

/-- A text that holds a value and nothing else. -/
def Json.Stands (text : List Char) (j : Json) : Prop :=
  ∃ root, Document.ofChars text = ⟨root, none⟩ ∧ root.value? = some j

theorem Json.stands_compactChars {j : Json} (hj : j.Integral) : Stands (compactChars j) j :=
  ofChars_compactChars hj

/-! ## Fields that are not there -/

/-- A type whose values do not tell a field that is not there from one with its default. -/
class Tolerant (α : Type) [Recorded α] : Prop where
  ofVal_withDefaults : ∀ v : (Recorded.shape α).Val,
    Recorded.ofVal ((Recorded.shape α).withDefaults v) = (Recorded.ofVal v : α)

theorem tolerant_of_strict {α : Type} [Recorded α] (h : (Recorded.shape α).strict) : Tolerant α :=
  ⟨fun v => congrArg Recorded.ofVal (Shape.withDefaults_of_strict h v)⟩

/-- The default of the way to a cluster sets nothing. -/
theorem Cluster.Access.default_eq : Shape.default? "access" Access.shape = some (toVal {}) := rfl

theorem Ssh.Settings.ofVal_withDefaults (v : Settings.fields.Val) :
    Settings.ofVal (Settings.fields.withDefaults v) = Settings.ofVal v := by
  obtain ⟨lh, lp, bh, bp, u, c, th, tp, ⟨⟩⟩ := v
  have hc : Credential.shape.withDefaults c = c := Shape.withDefaults_of_strict (by decide) c
  show Settings.ofVal (_, _, bh, _, u, Credential.shape.withDefaults c, th, tp, ()) = _
  rw [hc]
  cases lh <;> cases lp <;> cases bp <;> rfl

theorem Session.Settings.ofVal_withDefaults (v : Settings.fields.Val) :
    Settings.ofVal (Settings.fields.withDefaults v) = Settings.ofVal v := by
  obtain ⟨i, r, p, a, th, tp, lp, pl, ⟨⟩⟩ := v
  cases p <;> cases a <;> cases lp <;> cases pl <;> rfl

theorem Session.Receipt.ofVal_withDefaults (v : Receipt.shape.Val) :
    Receipt.ofVal (Receipt.shape.withDefaults v) = Receipt.ofVal v := by
  obtain ⟨s, r, p, a, ⟨⟩⟩ := v
  rcases p with _ | _ | p <;> rcases a with _ | _ | a <;> rfl

theorem Session.Assignment.ofVal_withDefaults (v : Assignment.fields.Val) :
    Assignment.ofVal (Assignment.fields.withDefaults v) = Assignment.ofVal v := by
  obtain ⟨s, g, ⟨⟩⟩ := v
  have hg : Grant.shape.withDefaults g = g := Shape.withDefaults_of_strict (by decide) g
  exact congrArg₂ Assignment.mk (Settings.ofVal_withDefaults s) (congrArg Grant.ofVal hg)

theorem Cluster.Access.ofVal_withDefaults (v : Access.shape.Val) :
    Access.ofVal (Access.shape.withDefaults v) = Access.ofVal v := by
  obtain ⟨h, u, p, i, t, cc, ck, ca, ps, pa, x, xu, xc, tk, px, e, ⟨⟩⟩ := v
  have htext : ∀ x, (Shape.nullable (.text "a string")).withDefaults x = x :=
    Shape.withDefaults_of_strict (by decide)
  have hpaths : (Shape.nullable .texts).withDefaults ps = ps :=
    Shape.withDefaults_of_strict (by decide) ps
  have hexec : (Shape.nullable ExecLogin.shape).withDefaults e = e :=
    Shape.withDefaults_of_strict (by decide) e
  show Access.ofVal
    (Shape.withDefaults _ h, Shape.withDefaults _ u, Shape.withDefaults _ p, _,
      Shape.withDefaults _ t, Shape.withDefaults _ cc, Shape.withDefaults _ ck,
      Shape.withDefaults _ ca, Shape.withDefaults _ ps, Shape.withDefaults _ pa,
      Shape.withDefaults _ x, Shape.withDefaults _ xu, Shape.withDefaults _ xc,
      Shape.withDefaults _ tk, Shape.withDefaults _ px, Shape.withDefaults _ e, ()) = _
  simp only [htext, hpaths, hexec]
  cases i <;> rfl

theorem Cluster.Settings.ofVal_withDefaults (v : Settings.fields.Val) :
    Settings.ofVal (Settings.fields.withDefaults v) = Settings.ofVal v := by
  obtain ⟨lh, lp, n, s, tp, a, ⟨⟩⟩ := v
  cases a with
  | none => cases lh <;> cases lp <;> rfl
  | some x =>
    have hx := Access.ofVal_withDefaults x
    cases lh <;> cases lp <;> exact congrArg (Settings.mk _ _ n s tp) hx

theorem Cluster.Assignment.ofVal_withDefaults (v : Assignment.fields.Val) :
    Assignment.ofVal (Assignment.fields.withDefaults v) = Assignment.ofVal v := by
  obtain ⟨s, p, ⟨⟩⟩ := v
  exact congrArg (Assignment.mk · p) (Settings.ofVal_withDefaults s)

theorem Settings.ofVal_withDefaults (v : Settings.shape.Val) :
    Settings.ofVal (Settings.shape.withDefaults v) = Settings.ofVal v := by
  rcases v with v | v | v | v
  · exact congrArg Settings.ssh (Ssh.Settings.ofVal_withDefaults v)
  · exact congrArg Settings.session (Session.Settings.ofVal_withDefaults v)
  · exact congrArg Settings.cluster (Cluster.Settings.ofVal_withDefaults v)
  · exact Empty.elim v

theorem Assignment.ofVal_withDefaults (v : Assignment.shape.Val) :
    Assignment.ofVal (Assignment.shape.withDefaults v) = Assignment.ofVal v := by
  rcases v with v | v | v | v
  · exact congrArg Assignment.ssh (Ssh.Settings.ofVal_withDefaults v)
  · exact congrArg Assignment.session (Session.Assignment.ofVal_withDefaults v)
  · exact congrArg Assignment.cluster (Cluster.Assignment.ofVal_withDefaults v)
  · exact Empty.elim v

theorem Handle.ofVal_withDefaults (v : Handle.shape.Val) :
    Handle.ofVal (Handle.shape.withDefaults v) = Handle.ofVal v := by
  obtain ⟨lh, lp, p, l, s, ⟨⟩⟩ := v
  rcases s with _ | _ | r
  · rfl
  · rfl
  · exact congrArg (fun r => Handle.mk lh lp p l (some r)) (Session.Receipt.ofVal_withDefaults r)

instance : Tolerant Ssh.Credential := tolerant_of_strict (by decide)
instance : Tolerant Session.Grant := tolerant_of_strict (by decide)
instance : Tolerant Cluster.ExecLogin := tolerant_of_strict (by decide)
instance : Tolerant Ssh.Settings := ⟨Ssh.Settings.ofVal_withDefaults⟩
instance : Tolerant Session.Settings := ⟨Session.Settings.ofVal_withDefaults⟩
instance : Tolerant Session.Receipt := ⟨Session.Receipt.ofVal_withDefaults⟩
instance : Tolerant Session.Assignment := ⟨Session.Assignment.ofVal_withDefaults⟩
instance : Tolerant Cluster.Access := ⟨Cluster.Access.ofVal_withDefaults⟩
instance : Tolerant Cluster.Settings := ⟨Cluster.Settings.ofVal_withDefaults⟩
instance : Tolerant Cluster.Assignment := ⟨Cluster.Assignment.ofVal_withDefaults⟩
instance : Tolerant Settings := ⟨Settings.ofVal_withDefaults⟩
instance : Tolerant Assignment := ⟨Assignment.ofVal_withDefaults⟩
instance : Tolerant Handle := ⟨Handle.ofVal_withDefaults⟩

/-! ## Payloads -/

namespace Payload

variable {α : Type} [Recorded α] {j : Json} {text : List Char}

theorem decodeChars_varied [Portable α] [Tolerant α] {a : α}
    (h : (Recorded.shape α).Varied (Recorded.toVal a) j) (hdepth : j.depth < Json.depthLimit)
    (htext : Json.Stands text j) : decodeChars text = .ok a := by
  obtain ⟨root, hdocument, hvalue⟩ := htext
  have hroom : Mode.allows (.streamed Json.depthLimit) j.depth := hdepth
  obtain ⟨w, hread, hw⟩ := Shape.read_varied Portable.sound h hroom hvalue
  have hdoc : (Recorded.shape α).readDocument Json.depthLimit (Json.Document.ofChars text) =
      .ok w := by
    rw [hdocument, Shape.readDocument, hread]
    rfl
  have hvalue : Recorded.ofVal w = a :=
    calc Recorded.ofVal w
      _ = Recorded.ofVal ((Recorded.shape α).withDefaults w) :=
        (Tolerant.ofVal_withDefaults w).symm
      _ = Recorded.ofVal ((Recorded.shape α).withDefaults (Recorded.toVal a)) := by rw [hw]
      _ = Recorded.ofVal (Recorded.toVal a) := Tolerant.ofVal_withDefaults _
      _ = a := Recorded.ofVal_toVal a
  rw [decodeChars, hdoc]
  exact congrArg Except.ok hvalue

theorem decodeChars_flawed [Portable α] (h : (Recorded.shape α).Flawed j)
    (htext : Json.Stands text j) : ∃ f, (decodeChars text : Except Fault α) = .error f := by
  obtain ⟨root, hdocument, hvalue⟩ := htext
  rw [decodeChars, hdocument, Shape.readDocument]
  cases hread : (Recorded.shape α).read (.streamed Json.depthLimit) root with
  | ok w => exact absurd hread (Shape.read_flawed Portable.sound h hvalue _ w)
  | error f => exact ⟨_, rfl⟩

/-- What is owed to the payloads of a type in other forms. -/
structure ReadsVariations (α : Type) [Recorded α] : Prop where
  /-- What is written is one of the forms of a value. -/
  own : ∀ a : α, (Recorded.shape α).Varied (Recorded.toVal a) (Recorded.toJson a) ∧
    ∃ text, Json.Stands text (Recorded.toJson a) ∧ encode a = encodeText text
  /-- Every form of a value is read as the value. -/
  varied : ∀ (a : α) (j : Json) (text : List Char),
    (Recorded.shape α).Varied (Recorded.toVal a) j → j.depth < Json.depthLimit →
      Json.Stands text j → decode (encodeText text) = .ok a
  /-- A document with a flaw at any level of it is read as no value. -/
  flawed : ∀ (j : Json) (text : List Char), (Recorded.shape α).Flawed j → Json.Stands text j →
    ∃ message, (decode (encodeText text) : Except Error α) = .error (.decode message)

theorem readsVariations_of_tolerant [Portable α] [Tolerant α] : ReadsVariations α where
  own a := by
    have hsound : (Recorded.shape α).sound := Portable.sound
    exact ⟨Shape.varied_write _ _, _,
      Json.stands_compactChars (Shape.integral_write hsound (Recorded.toVal a)), rfl⟩
  varied a j text h hdepth htext := by
    rw [decode, decode?_encodeText, decodeChars_varied h hdepth htext]
    rfl
  flawed j text h htext := by
    obtain ⟨f, hf⟩ := decodeChars_flawed h htext
    refine ⟨f.message, ?_⟩
    rw [decode, decode?_encodeText, hf]
    rfl

theorem all_types_read_variations :
    ReadsVariations Settings ∧ ReadsVariations Assignment ∧ ReadsVariations Ssh.Settings ∧
      ReadsVariations Ssh.Credential ∧ ReadsVariations Session.Settings ∧
      ReadsVariations Cluster.Settings ∧ ReadsVariations Cluster.Access ∧
      ReadsVariations Cluster.ExecLogin ∧ ReadsVariations Session.Grant ∧
      ReadsVariations Session.Assignment ∧ ReadsVariations Cluster.Assignment ∧
      ReadsVariations Session.Receipt ∧ ReadsVariations Handle :=
  ⟨readsVariations_of_tolerant, readsVariations_of_tolerant, readsVariations_of_tolerant,
    readsVariations_of_tolerant, readsVariations_of_tolerant, readsVariations_of_tolerant,
    readsVariations_of_tolerant, readsVariations_of_tolerant, readsVariations_of_tolerant,
    readsVariations_of_tolerant, readsVariations_of_tolerant, readsVariations_of_tolerant,
    readsVariations_of_tolerant⟩

-- The tag comes late, one member is not known, and those with their usual value are left out.
example :
    let text := "\x7b\"service\":\"web\",\"color\":[null,\x7b\x7d],\"namespace\":\"shop\"," ++
      "\"type\":\"kubernetes\",\"target_port\":80\x7d"
    (decodeChars text.toList : Except Fault Settings).toOption =
      some (.cluster ⟨"localhost", 0, "shop", "web", 80, {}⟩) := by decide +kernel

end Payload

end PortTunnel
