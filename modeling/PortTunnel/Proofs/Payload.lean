import PortTunnel.Assignment
import PortTunnel.Handle
import PortTunnel.Payload
import PortTunnel.Proofs.Schema.RoundTrip
import PortTunnel.Proofs.Text.Base64
import PortTunnel.Proofs.Text.Utf8

/-!
# What crosses a process boundary

A payload is read back as the value it was made of, and its letters need no quoting.

* `Portable`: a recorded type whose shape is sound and does not nest too deep for a reader.
* `Payload.decode?_between_blanks`: any text that is wrapped is unwrapped again.
* `Payload.decode_between_blanks`: the round trip of such a type.
* `Payload.all_types_round_trip`: every type that a payload is made of.
-/

namespace PortTunnel

open Schema Text

/-- A type whose values survive being written and read along a text. -/
class Portable (α : Type) [Recorded α] : Prop where
  sound : (Recorded.shape α).sound
  shallow : (Recorded.shape α).depth < Json.depthLimit

/-! ## Blanks around a payload -/

namespace Text

theorem dropWhile_blanks {before rest : List Char} (h : ∀ c ∈ before, isBlank c)
    (hrest : ∀ c cs, rest = c :: cs → isBlank c = false) :
    (before ++ rest).dropWhile isBlank = rest := by
  rw [List.dropWhile_append_of_pos h]
  cases rest with
  | nil => rfl
  | cons c cs => simp [hrest c cs rfl]

theorem trimChars_between {before cs after : List Char} (hbefore : ∀ c ∈ before, isBlank c)
    (hafter : ∀ c ∈ after, isBlank c) (hcs : ∀ c ∈ cs, isBlank c = false) :
    trimChars (before ++ cs ++ after) = cs := by
  cases cs with
  | nil =>
    rw [trimChars_eq_nil_iff]
    simpa [or_imp, forall_and] using And.intro hbefore hafter
  | cons c cs =>
    have hend : ∀ d ∈ after.reverse, isBlank d := fun d hd => hafter d (List.mem_reverse.mp hd)
    have hfirst : ∀ d ds, (c :: cs) ++ after = d :: ds → isBlank d = false := by
      intro d ds heq
      cases heq
      exact hcs c List.mem_cons_self
    have hlast : ∀ d ds, (c :: cs).reverse = d :: ds → isBlank d = false := by
      intro d ds heq
      refine hcs d (List.mem_reverse.mp ?_)
      rw [heq]
      exact List.mem_cons_self
    rw [trimChars, List.append_assoc, dropWhile_blanks hbefore hfirst, List.reverse_append,
      dropWhile_blanks hend hlast, List.reverse_reverse]

theorem toNat_urlChar {c : Char} (h : Base64.isUrlChar c) : 0x2D ≤ c.toNat ∧ c.toNat < 0x7B := by
  have hupper (hc : c.isUpper) : 65 ≤ c.toNat ∧ c.toNat ≤ 90 := of_decide_eq_true hc
  have hlower (hc : c.isLower) : 97 ≤ c.toNat ∧ c.toNat ≤ 122 := by
    obtain ⟨hlow, hhigh⟩ := (Bool.and_eq_true _ _).mp hc
    exact ⟨of_decide_eq_true hlow, of_decide_eq_true hhigh⟩
  have hdigit (hc : c.isDigit) : 48 ≤ c.toNat ∧ c.toNat ≤ 57 := by
    obtain ⟨hlow, hhigh⟩ := (Bool.and_eq_true _ _).mp hc
    exact ⟨of_decide_eq_true hlow, of_decide_eq_true hhigh⟩
  simp only [Base64.isUrlChar, Char.isAlphanum, Bool.or_eq_true, decide_eq_true_eq] at h
  rcases h with ((halpha | hc) | rfl) | rfl
  · rcases (Bool.or_eq_true _ _).mp halpha with hc | hc
    · have := hupper hc
      omega
    · have := hlower hc
      omega
  · have := hdigit hc
    omega
  · decide
  · decide

theorem isBlank_urlChar {c : Char} (h : Base64.isUrlChar c) : isBlank c = false := by
  obtain ⟨hlow, hhigh⟩ := toNat_urlChar h
  simp [isBlank]
  omega

end Text

/-! ## Round trip -/

namespace Payload

variable {α : Type} [Recorded α]

theorem isUrlChar_encodeText {text : List Char} {c : Char} (h : c ∈ (encodeText text).toList) :
    Base64.isUrlChar c := by
  rw [encodeText, String.toList_ofList] at h
  exact Base64.url_alphabet h

/-- Whatever was wrapped is unwrapped again. -/
theorem decode?_between_blanks (text : List Char) {before after : List Char}
    (hbefore : ∀ c ∈ before, isBlank c) (hafter : ∀ c ∈ after, isBlank c) :
    decode? (String.ofList (before ++ (encodeText text).toList ++ after)) =
      (decodeChars text : Except Fault α) := by
  have htrim : trimChars (before ++ (encodeText text).toList ++ after) =
      (encodeText text).toList :=
    trimChars_between hbefore hafter fun c hc => isBlank_urlChar (isUrlChar_encodeText hc)
  rw [decode?, String.toList_ofList, htrim, encodeText, String.toList_ofList,
    Base64.decode_encode Base64.url_sound]
  simp only [Utf8.decode_encode]

theorem decode?_encodeText (text : List Char) :
    decode? (encodeText text) = (decodeChars text : Except Fault α) := by
  have hnone : ∀ c ∈ ([] : List Char), isBlank c := nofun
  have hdecode : decode? (String.ofList ([] ++ (encodeText text).toList ++ [])) =
      (decodeChars text : Except Fault α) := decode?_between_blanks text hnone hnone
  simpa using hdecode

/-- The text of a value is read as this value. -/
theorem decodeChars_compactChars [Portable α] (a : α) :
    decodeChars (Json.compactChars (Recorded.toJson a)) = .ok a := by
  have hsound : (Recorded.shape α).sound := Portable.sound
  obtain ⟨root, hdocument, hvalue⟩ :=
    Json.ofChars_compactChars (Shape.integral_write hsound (Recorded.toVal a))
  have hroom : Mode.allows (.streamed Json.depthLimit) (Recorded.shape α).depth := Portable.shallow
  have hread := Shape.read_write hsound hroom hvalue
  have hdoc : (Recorded.shape α).readDocument Json.depthLimit
      (Json.Document.ofChars (Json.compactChars (Recorded.toJson a))) =
        .ok (Recorded.toVal a) := by
    rw [Recorded.toJson, hdocument, Shape.readDocument, hread]
    rfl
  rw [decodeChars, hdoc]
  exact congrArg Except.ok (Recorded.ofVal_toVal a)

theorem decode_between_blanks [Portable α] (a : α) {before after : List Char}
    (hbefore : ∀ c ∈ before, isBlank c) (hafter : ∀ c ∈ after, isBlank c) :
    decode (String.ofList (before ++ (encode a).toList ++ after)) = .ok a := by
  rw [decode, encode, decode?_between_blanks _ hbefore hafter, decodeChars_compactChars]
  rfl

/-! ## The types -/

instance : Portable Ssh.Credential := ⟨by decide, by decide⟩
instance : Portable Ssh.Settings := ⟨by decide, by decide⟩
instance : Portable Session.Settings := ⟨by decide, by decide⟩
instance : Portable Session.Grant := ⟨by decide, by decide⟩
instance : Portable Session.Receipt := ⟨by decide, by decide⟩
instance : Portable Session.Assignment := ⟨by decide, by decide⟩
instance : Portable Cluster.ExecLogin := ⟨by decide, by decide⟩
instance : Portable Cluster.Access := ⟨by decide, by decide⟩
instance : Portable Cluster.Settings := ⟨by decide, by decide⟩
instance : Portable Cluster.Assignment := ⟨by decide, by decide⟩
instance : Portable Settings := ⟨by decide, by decide⟩
instance : Portable Assignment := ⟨by decide, by decide⟩
instance : Portable Handle := ⟨by decide, by decide⟩

/-- What the payloads of a type keep. -/
structure RoundTrips (α : Type) [Recorded α] : Prop where
  /-- A payload is written in letters that need no quoting. -/
  letters : ∀ (a : α), ∀ c ∈ (encode a).toList, Base64.isUrlChar c
  /-- A payload is read as the value that it was written for, whatever blanks are put around it. -/
  value : ∀ (a : α) (before after : List Char), (∀ c ∈ before, isBlank c) →
    (∀ c ∈ after, isBlank c) →
      decode (String.ofList (before ++ (encode a).toList ++ after)) = .ok a

theorem roundTrips_of_portable [Portable α] : RoundTrips α where
  letters _ _ hc := isUrlChar_encodeText hc
  value a _ _ hbefore hafter := decode_between_blanks a hbefore hafter

theorem all_types_round_trip :
    RoundTrips Settings ∧ RoundTrips Assignment ∧ RoundTrips Ssh.Settings ∧
      RoundTrips Ssh.Credential ∧ RoundTrips Session.Settings ∧ RoundTrips Cluster.Settings ∧
      RoundTrips Cluster.Access ∧ RoundTrips Cluster.ExecLogin ∧ RoundTrips Session.Grant ∧ RoundTrips Session.Assignment ∧
      RoundTrips Cluster.Assignment ∧ RoundTrips Session.Receipt ∧ RoundTrips Handle :=
  ⟨roundTrips_of_portable, roundTrips_of_portable, roundTrips_of_portable, roundTrips_of_portable,
    roundTrips_of_portable, roundTrips_of_portable, roundTrips_of_portable, roundTrips_of_portable,
    roundTrips_of_portable, roundTrips_of_portable, roundTrips_of_portable, roundTrips_of_portable,
    roundTrips_of_portable⟩

end Payload

end PortTunnel
