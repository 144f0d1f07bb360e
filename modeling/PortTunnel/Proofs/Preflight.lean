import PortTunnel.Proofs.Opened

/-!
# Nothing is started without a pod

The pod of a service is found out in two questions, the second of which is asked only where there are
labels to ask by. A worker is launched for the first pod of the answer and for nothing else, so
whatever goes wrong before that leaves the machine and the tunnel as they were.

* `Cluster.Selected`, `Cluster.FirstPod`: what an API says about a service.
* `Cluster.preflight_error`: without a pod, the check before the launch fails.
* `Open.clusterBy`: the tunnel to a service, by any way of launching workers; `Open.Launches`.
* `Open.PodResolution`: what is owed to whoever asks for a service.
* `Open.cluster_launches_first_pod`: it is owed whatever an API answers.
-/

namespace PortTunnel

open Text (TextTable)
open Launcher (System)

/-! ## Questions and answers -/

namespace Cluster

variable {api : Api} {s : Settings} {labels : TextTable} {e : Error}

/-- A service that selects its pods by some labels. -/
def Selected (api : Api) (s : Settings) (labels : TextTable) : Prop :=
  api.selector s.nspace s.service = .ok labels ∧ ¬ labels.isEmpty

/-- The first of the pods that a service selects. -/
def FirstPod (api : Api) (s : Settings) (pod : String) : Prop :=
  ∃ labels others, Selected api s labels ∧
    api.pods s.nspace (selectorText labels) = .ok (pod :: others)

theorem preflight_refused (h : api.selector s.nspace s.service = .error e) :
    preflight api s = ([.selector s.nspace s.service], .error e) := by
  simp only [preflight, h]

theorem preflight_unlabelled (h : api.selector s.nspace s.service = .ok labels)
    (hnone : labels.isEmpty) :
    preflight api s = ([.selector s.nspace s.service],
      .error (.preflight s!"service {s.nspace}/{s.service} has no selector")) := by
  simp only [preflight, h, hnone, if_true]

/-- With labels, what the second question is answered decides. -/
theorem preflight_selected (h : Selected api s labels) :
    preflight api s = ([.selector s.nspace s.service, .pods s.nspace (selectorText labels)],
      match api.pods s.nspace (selectorText labels) with
      | .error e => .error e
      | .ok [] => .error (.noPods s.nspace s.service)
      | .ok (pod :: _) => .ok ⟨s, pod⟩) := by
  obtain ⟨hlabels, hsome⟩ := h
  simp only [preflight, hlabels, hsome, Bool.false_eq_true, if_false]
  cases api.pods s.nspace (selectorText labels) with
  | error e => rfl
  | ok pods => cases pods <;> rfl

theorem preflight_firstPod {pod : String} (h : FirstPod api s pod) :
    (preflight api s).2 = .ok ⟨s, pod⟩ := by
  obtain ⟨labels, others, hselected, hpods⟩ := h
  rw [preflight_selected hselected, hpods]

theorem preflight_error (h : ∀ pod, ¬ FirstPod api s pod) : ∃ e, (preflight api s).2 = .error e := by
  cases hlabels : api.selector s.nspace s.service with
  | error e => exact ⟨e, by rw [preflight_refused hlabels]⟩
  | ok labels =>
    by_cases hnone : labels.isEmpty
    · exact ⟨_, by rw [preflight_unlabelled hlabels hnone]⟩
    · have hselected : Selected api s labels := ⟨hlabels, hnone⟩
      rw [preflight_selected hselected]
      cases hpods : api.pods s.nspace (selectorText labels) with
      | error e => exact ⟨e, rfl⟩
      | ok pods =>
        cases pods with
        | nil => exact ⟨_, rfl⟩
        | cons pod others => exact absurd ⟨labels, others, hselected, hpods⟩ (h pod)

theorem preflight_unselected (h : ∀ labels, ¬ Selected api s labels) :
    (preflight api s).1 = [.selector s.nspace s.service] := by
  cases hlabels : api.selector s.nspace s.service with
  | error e => rw [preflight_refused hlabels]
  | ok labels =>
    by_cases hnone : labels.isEmpty
    · rw [preflight_unlabelled hlabels hnone]
    · exact absurd ⟨hlabels, hnone⟩ (h labels)

end Cluster

/-! ## Launches -/

namespace Open

open Cluster (Api Selected FirstPod selectorText)

variable {pad : Launchpad} {api : Api} {sys : System} {l : Lifecycle} {s : Cluster.Settings}

/-- The tunnel to a service, by the way in which its worker is launched. -/
def clusterBy (launch : Assignment → Outcome) (api : Api) (sys : System) (l : Lifecycle)
    (s : Cluster.Settings) : Outcome :=
  match Cluster.preflight api s with
  | (asked, .error e) => { system := sys, lifecycle := l, clusterCalls := asked, result := .error e }
  | (asked, .ok work) => { launch (.cluster work) with clusterCalls := asked }

theorem cluster_eq : cluster pad api sys l s = clusterBy (launch pad sys l) api sys l s := rfl

theorem clusterBy_ok {launch : Assignment → Outcome} {work : Cluster.Assignment}
    (h : (Cluster.preflight api s).2 = .ok work) :
    clusterBy launch api sys l s =
      { launch (.cluster work) with clusterCalls := (Cluster.preflight api s).1 } := by
  rw [clusterBy]
  cases hcheck : Cluster.preflight api s with
  | mk asked checked =>
    rw [hcheck] at h
    cases h
    rfl

theorem clusterBy_error {launch : Assignment → Outcome} {e : Error}
    (h : (Cluster.preflight api s).2 = .error e) :
    clusterBy launch api sys l s =
      { system := sys, lifecycle := l, clusterCalls := (Cluster.preflight api s).1
        result := .error e } := by
  rw [clusterBy]
  cases hcheck : Cluster.preflight api s with
  | mk asked checked =>
    rw [hcheck] at h
    cases h
    rfl

theorem clusterCalls_eq :
    (cluster pad api sys l s).clusterCalls = (Cluster.preflight api s).1 := by
  rw [cluster_eq]
  cases hcheck : (Cluster.preflight api s).2 with
  | error e => rw [clusterBy_error hcheck]
  | ok work => rw [clusterBy_ok hcheck]

/-- The worker of an assignment is launched: in whichever way that is done, what comes of it is what
comes of the attempt. -/
def Launches (api : Api) (sys : System) (l : Lifecycle) (s : Cluster.Settings) (a : Assignment) :
    Prop :=
  ∀ launch : Assignment → Outcome, ∃ asked,
    clusterBy launch api sys l s = { launch a with clusterCalls := asked }

/-- The handle of a worker that is of no further interest. -/
def anyHandle : Handle := ⟨"", 0, 0, "", none⟩

theorem launches_iff {a : Assignment} :
    Launches api sys l s a ↔ ∃ pod, FirstPod api s pod ∧ a = .cluster ⟨s, pod⟩ := by
  constructor
  · intro hlaunches
    -- A way of launching that tells the assignment from all others.
    let launch : Assignment → Outcome := fun b =>
      { system := sys, lifecycle := l, result := if b = a then .ok anyHandle else .error default }
    obtain ⟨asked, houtcome⟩ := hlaunches launch
    have hresult : (clusterBy launch api sys l s).result = .ok anyHandle := by
      rw [houtcome]
      exact if_pos rfl
    by_cases hfound : ∃ pod, FirstPod api s pod
    · obtain ⟨pod, hpod⟩ := hfound
      rw [clusterBy_ok (Cluster.preflight_firstPod hpod)] at hresult
      have htold : (if Assignment.cluster ⟨s, pod⟩ = a then .ok anyHandle else .error default) =
          (.ok anyHandle : Except Error Handle) := hresult
      split at htold
      · rename_i hsame
        exact ⟨pod, hpod, hsame.symm⟩
      · cases htold
    · obtain ⟨e, herror⟩ := Cluster.preflight_error (not_exists.mp hfound)
      rw [clusterBy_error herror] at hresult
      cases hresult
  · rintro ⟨pod, hpod, rfl⟩ launch
    exact ⟨_, clusterBy_ok (Cluster.preflight_firstPod hpod)⟩

/-! ## The whole -/

/-- What is owed to whoever asks for a tunnel to a service. -/
structure PodResolution (pad : Launchpad) (api : Api) (sys : System) (l : Lifecycle)
    (s : Cluster.Settings) (o : Outcome) : Prop where
  attempt : o = clusterBy (launch pad sys l) api sys l s
  /-- With labels, both questions are asked, each once. -/
  selected : ∀ labels, Selected api s labels →
    o.clusterCalls = [.selector s.nspace s.service, .pods s.nspace (selectorText labels)]
  /-- Without labels, only the question for the labels is asked. -/
  unselected : (∀ labels, ¬ Selected api s labels) →
    o.clusterCalls = [.selector s.nspace s.service]
  /-- The worker of the first pod is launched, and no other. -/
  reached : ∀ a, Launches api sys l s a ↔ ∃ pod, FirstPod api s pod ∧ a = .cluster ⟨s, pod⟩
  launched : ∀ pod, FirstPod api s pod →
    o = { launch pad sys l (.cluster ⟨s, pod⟩) with clusterCalls := o.clusterCalls }
  /-- Without a pod, no file, no process and no stage of the tunnel is another one. -/
  untouched : (∀ pod, ¬ FirstPod api s pod) →
    o.system = sys ∧ o.lifecycle = l ∧ ∃ e, o.result = .error e
  /-- Labels that an API refuses to tell are refused in its words. -/
  refused : ∀ e, api.selector s.nspace s.service = .error e → o.result = .error e
  /-- Pods that an API refuses to list are refused in its words. -/
  unlisted : ∀ labels e, Selected api s labels →
    api.pods s.nspace (selectorText labels) = .error e → o.result = .error e
  /-- A service without labels is refused as one without a selector. -/
  unlabelled : ∀ labels, api.selector s.nspace s.service = .ok labels → labels.isEmpty →
    o.result = .error (.preflight s!"service {s.nspace}/{s.service} has no selector")
  /-- A service without pods is refused as one. -/
  podless : ∀ labels, Selected api s labels →
    api.pods s.nspace (selectorText labels) = .ok [] →
      o.result = .error (.noPods s.nspace s.service)

theorem cluster_launches_first_pod (pad : Launchpad) (api : Api) (sys : System) (l : Lifecycle)
    (s : Cluster.Settings) : PodResolution pad api sys l s (cluster pad api sys l s) where
  attempt := cluster_eq
  selected labels h := by rw [clusterCalls_eq, Cluster.preflight_selected h]
  unselected h := by rw [clusterCalls_eq, Cluster.preflight_unselected h]
  reached _ := launches_iff
  launched pod h := by
    rw [clusterCalls_eq, cluster_eq]
    exact clusterBy_ok (Cluster.preflight_firstPod h)
  untouched h := by
    obtain ⟨e, herror⟩ := Cluster.preflight_error h
    rw [cluster_eq, clusterBy_error herror]
    exact ⟨rfl, rfl, e, rfl⟩
  refused e h := by
    have herror := congrArg Prod.snd (Cluster.preflight_refused h)
    rw [cluster_eq, clusterBy_error herror]
  unlisted labels e hselected hpods := by
    have herror := congrArg Prod.snd (Cluster.preflight_selected hselected)
    rw [hpods] at herror
    rw [cluster_eq, clusterBy_error herror]
  unlabelled labels hlabels hnone := by
    have herror := congrArg Prod.snd (Cluster.preflight_unlabelled hlabels hnone)
    rw [cluster_eq, clusterBy_error herror]
  podless labels hselected hpods := by
    have herror := congrArg Prod.snd (Cluster.preflight_selected hselected)
    rw [hpods] at herror
    rw [cluster_eq, clusterBy_error herror]

end Open

end PortTunnel
