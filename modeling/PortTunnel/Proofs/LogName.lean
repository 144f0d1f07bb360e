import PortTunnel.Proofs.Decimal.Word
import PortTunnel.Proofs.Launched
import PortTunnel.Proofs.Machine.Path

/-!
# Logs of their own

The name of a log is made of what a tunnel leads to, which may be any text at all. Only characters that
stand for themselves are kept of it, so the name is that of something in the directory of logs. The kind
before it ends at the first hyphen and the port behind it begins after the last one, so whatever
hyphens the text itself has, two names are the same only if all three parts are.

* `Assignment.logName_inj`: the parts of a name.
* `Launcher.LogPlace`: what the name of a log says about where it is and whose it is.
* `Launcher.log_in_directory_and_distinct`: the names of all logs say it.
-/

namespace PortTunnel

/-! ## Separators -/

section

variable {α : Type} {x : α} {front front' back back' : List α}

/-- The first of some separators tells what is before it from what is behind it. -/
theorem append_cons_inj_of_first (h : x ∉ front) (h' : x ∉ front') :
    front ++ x :: back = front' ++ x :: back' ↔ front = front' ∧ back = back' := by
  constructor
  · induction front generalizing front' with
    | nil =>
      cases front' with
      | nil => exact fun heq => ⟨rfl, (List.cons.inj heq).2⟩
      | cons c front' => exact fun heq => absurd (List.cons.inj heq).1 (List.ne_of_not_mem_cons h')
    | cons c front ih =>
      cases front' with
      | nil => exact fun heq => absurd (List.cons.inj heq).1.symm (List.ne_of_not_mem_cons h)
      | cons d front' =>
        intro heq
        obtain ⟨rfl, hrest⟩ := List.cons.inj heq
        obtain ⟨rfl, hback⟩ :=
          ih (List.not_mem_of_not_mem_cons h) (List.not_mem_of_not_mem_cons h') hrest
        exact ⟨rfl, hback⟩
  · rintro ⟨rfl, rfl⟩
    rfl

/-- The last of some separators tells what is before it from what is behind it. -/
theorem append_cons_inj_of_last (h : x ∉ back) (h' : x ∉ back') :
    front ++ x :: back = front' ++ x :: back' ↔ front = front' ∧ back = back' := by
  rw [← List.reverse_inj]
  simp only [List.reverse_append, List.reverse_cons, List.append_assoc, List.singleton_append]
  rw [append_cons_inj_of_first (by simpa using h) (by simpa using h'), List.reverse_inj,
    List.reverse_inj, and_comm]

end

/-! ## Names -/

namespace Assignment

variable {a b : Assignment}

theorem toList_logName (a : Assignment) : a.logName.toList =
    a.kind.marker.toList ++ '-' :: ("tunnel-".toList ++
      (a.logIdentity.toList ++ '-' :: ((toString a.targetPort.toNat).toList ++ ".log".toList))) := by
  have htext : a.logName = a.kind.marker ++ "-tunnel-" ++ a.logIdentity ++ "-" ++
      toString a.targetPort.toNat ++ ".log" := rfl
  rw [htext]
  simp only [String.toList_append, List.append_assoc]
  rfl

theorem hyphen_not_mem_marker (k : Kind) : '-' ∉ k.marker.toList := by
  cases k <;> decide

theorem marker_inj {k l : Kind} (h : k.marker = l.marker) : k = l :=
  Option.some.inj ((Kind.ofMarker?_marker k).symm.trans (h ▸ Kind.ofMarker?_marker l))

theorem isDigit_toString {n : Nat} {c : Char} (h : c ∈ (toString n).toList) : c.isDigit := by
  rw [show (toString n).toList = Nat.toDigits 10 n from Nat.toList_repr] at h
  exact Json.isDigit_toDigits h

theorem toString_inj {m n : Nat} (h : toString m = toString n) : m = n := by
  have hm := Decimal.Word.parse_toString (Nat.lt_succ_of_le (Nat.le_max_left m n))
  have hn := Decimal.Word.parse_toString (Nat.lt_succ_of_le (Nat.le_max_right m n))
  rw [h, hn] at hm
  exact (Except.ok.inj hm).symm

theorem hyphen_not_mem_end (n : Nat) : '-' ∉ (toString n).toList ++ ".log".toList := by
  rw [List.mem_append, not_or]
  exact ⟨fun h => absurd (isDigit_toString h) (by decide), by decide⟩

/-- A name tells its three parts. -/
theorem logName_inj : a.logName = b.logName ↔
    a.kind = b.kind ∧ a.targetPort = b.targetPort ∧ a.logIdentity = b.logIdentity := by
  constructor
  · intro h
    have hchars := congrArg String.toList h
    rw [toList_logName, toList_logName, append_cons_inj_of_first (hyphen_not_mem_marker _)
      (hyphen_not_mem_marker _), List.append_cancel_left_eq, append_cons_inj_of_last
      (hyphen_not_mem_end _) (hyphen_not_mem_end _), List.append_cancel_right_eq] at hchars
    obtain ⟨hkind, hidentity, hport⟩ := hchars
    exact ⟨marker_inj (String.toList_inj.mp hkind),
      UInt16.toNat_inj.mp (toString_inj (String.toList_inj.mp hport)),
      String.toList_inj.mp hidentity⟩
  · rintro ⟨hkind, hport, hidentity⟩
    rw [logName, logName, hkind, hport, hidentity]

/-! ## Characters -/

theorem isLogChar_of_isDigit {c : Char} (h : c.isDigit) : isLogChar c := by
  simp [isLogChar, Char.isAlphanum, h]

theorem isLogChar_logIdentity {c : Char} (h : c ∈ a.logIdentity.toList) : isLogChar c := by
  rw [logIdentity, String.toList_ofList] at h
  obtain ⟨d, -, rfl⟩ := List.mem_map.mp h
  split
  · assumption
  · decide

theorem isLogChar_logName {c : Char} (h : c ∈ a.logName.toList) : isLogChar c := by
  have hmarker : a.kind.marker.toList.all isLogChar := by
    cases a.kind <;> decide
  have htunnel : ('-' :: "tunnel-".toList).all isLogChar := by decide
  have hlog : ('-' :: ".log".toList).all isLogChar := by decide
  rw [List.all_eq_true] at hmarker htunnel hlog
  rw [toList_logName] at h
  simp only [List.mem_append, List.mem_cons] at h htunnel hlog
  rcases h with h | h | h | h | h | h | h
  · exact hmarker c h
  · exact htunnel c (.inl h)
  · exact htunnel c (.inr h)
  · exact isLogChar_logIdentity h
  · exact hlog c (.inl h)
  · exact isLogChar_of_isDigit (isDigit_toString h)
  · exact hlog c (.inr h)

/-- A name begins as its kind does, and no kind begins with a point. -/
theorem isStep_logName (a : Assignment) : Machine.Path.IsStep a.logName := by
  obtain ⟨c, rest, hchars, hpoint⟩ : ∃ c rest, a.logName.toList = c :: rest ∧ c ≠ '.' := by
    rw [toList_logName]
    cases a.kind <;> exact ⟨_, _, rfl, by decide⟩
  have hother : ∀ name : String, (∀ d ds, name.toList = d :: ds → d = '.') → a.logName ≠ name := by
    rintro _ hname rfl
    exact hpoint (hname c rest hchars)
  constructor
  · exact fun h => absurd (isLogChar_logName h) (by decide)
  · exact fun h => absurd (isLogChar_logName h) (by decide)
  · exact hother "" nofun
  · refine hother "." fun d ds h => ?_
    cases h
    rfl
  · refine hother ".." fun d ds h => ?_
    cases h
    rfl

end Assignment

/-! ## Logs -/

namespace Launcher

open Machine (Files)

/-- What the name of a log says about where it is, and whose it is. -/
structure LogPlace (a : Assignment) : Prop where
  /-- There are letters, digits and three signs in a name, all of them ASCII. -/
  letters : ∀ c ∈ a.logName.toList, c.isAlphanum ∨ c = '.' ∨ c = '-' ∨ c = '_'
  /-- A name stands for something in a directory. -/
  proper : a.logName ≠ "." ∧ a.logName ≠ ".."
  /-- The path of a log leads to a child of the directory of logs, if anywhere. -/
  child : ∀ (logs : String) (files : Files) place, files.resolve (logPath logs a) = .ok place ↔
    ∃ directory, files.Leads logs directory ∧
      a.logName.utf8ByteSize ≤ Files.nameLimit ∧ place = directory ++ [a.logName]
  /-- A log that was opened is such a child, with what it held before. -/
  opened : ∀ (logs : String) (files opened : Files), openLog files logs a = (opened, .ok ()) →
    ∃ directory, opened.Leads logs directory ∧
      opened.Stands (logPath logs a) (directory ++ [a.logName])
        (files.held (directory ++ [a.logName])) ∧
      ∀ place, opened.held place = files.held place
  /-- It is the name of the logs of one kind, one port, and one identity but for the characters that
  are replaced in it. -/
  distinct : ∀ b : Assignment, a.logName = b.logName ↔ a.kind = b.kind ∧
    a.targetPort = b.targetPort ∧
      (a.identity.toList.map fun c => if Assignment.isLogChar c then c else '_') =
        b.identity.toList.map fun c => if Assignment.isLogChar c then c else '_'

theorem log_in_directory_and_distinct (a : Assignment) : LogPlace a where
  letters c hc := by
    have hlog := Assignment.isLogChar_logName hc
    simpa [Assignment.isLogChar, or_assoc] using hlog
  proper := ⟨a.isStep_logName.notHere, a.isStep_logName.notUp⟩
  child logs files place := Files.resolve_join_eq_ok_iff a.isStep_logName logs
  opened logs files opened hopen := by
    obtain ⟨place, hstands⟩ := openLog_stands hopen
    obtain ⟨directory, hleads, -, rfl⟩ :=
      (Files.resolve_join_eq_ok_iff a.isStep_logName logs).mp hstands.1
    refine ⟨directory, hleads, hstands, fun place => ?_⟩
    have hheld := (openLog_grown files logs a).2 place
    rwa [hopen] at hheld
  distinct b := by
    rw [Assignment.logName_inj, Assignment.logIdentity, Assignment.logIdentity, String.ofList_inj]

end Launcher

end PortTunnel
