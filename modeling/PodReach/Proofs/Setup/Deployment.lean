import PodReach.Proofs.Setup.Objects
import PodReach.Proofs.Text.Blank

/-!
# The pods of a deployment

The labels that a deployment matches are written as a selector, and the cluster reads them off it
again. Where no label holds a character that parts a selector, nothing is lost on the way, so the
pods that are listed are those that carry every label. A deployment without labels has no selector
at all: the empty one would select every pod.
-/

namespace PodReach

open Run World

/-- A deployment without labels to match: its specification, its selector or the labels are missing,
or there are none of them. -/
def Deployment.IsUnlabelled (d : Deployment) : Prop :=
  ∀ spec ∈ d.spec, ∀ selector ∈ spec.selector, ∀ labels ∈ selector.matchLabels, labels = []

theorem Deployment.isUnlabelled_iff (d : Deployment) :
    d.IsUnlabelled ↔ ∀ labels, d.matchLabels = some labels → labels = [] := by
  simp only [IsUnlabelled, matchLabels, Option.bind_eq_bind, Option.bind_eq_some_iff,
    Option.mem_def]
  constructor
  · rintro h labels ⟨spec, hspec, selector, hselector, hlabels⟩
    exact h spec hspec selector hselector labels hlabels
  · exact fun h spec hspec selector hselector labels hlabels =>
      h labels ⟨spec, hspec, selector, hselector, hlabels⟩

namespace Setup

open Cluster

variable {label : String × String} {labels : List (String × String)}

/-! ## Writing labels and reading them -/

/-- A text without the characters that part a selector, and without blanks. -/
def IsPlain (text : String) : Prop :=
  ∀ c ∈ text.toList, c ≠ ',' ∧ c ≠ '=' ∧ Text.isBlank c = false

instance (text : String) : Decidable (IsPlain text) :=
  decidable_of_iff (text.toList.all fun c => c != ',' && c != '=' && !Text.isBlank c)
    (by simp [IsPlain, and_assoc])

/-- The labels that a selector names: its terms between commas, each cut at its first equals sign.
A term without an equals sign names none. -/
def labelsIn? (selector : String) : Option (List (String × String)) :=
  (Text.split ',' selector).mapM fun term =>
    (Text.cutAtFirst '=' term.toList).map fun (key, value) =>
      (String.ofList key, String.ofList value)

/-- A label as it is written in a selector. -/
def termOf (label : String × String) : List Char :=
  label.1.toList ++ '=' :: label.2.toList

theorem IsPlain.strip_eq {text : String} (h : IsPlain text) : Text.strip text = text := by
  rw [Text.strip, Text.trimBoth_of_not_mem fun c hc => (h c hc).2.2, String.ofList_toList]

theorem toList_selectorOf (labels : List (String × String)) :
    (selectorOf labels).toList = [','].intercalate (labels.map termOf) := by
  unfold selectorOf
  rw [String.toList_intercalate, List.map_map]
  refine congrArg _ (List.map_congr_left fun label _ => ?_)
  simp [termOf, String.toList_append, toString]

/-- What is written for some labels is not empty. -/
theorem selectorOf_ne_empty (hne : labels ≠ []) : selectorOf labels ≠ "" := by
  obtain ⟨label, rest, rfl⟩ := List.exists_cons_of_ne_nil hne
  intro hempty
  have hmem : '=' ∈ (selectorOf (label :: rest)).toList := by
    rw [toList_selectorOf]
    cases rest <;> simp [termOf, List.intercalate]
  simp [hempty] at hmem

/-- The terms of a written selector. -/
theorem split_selectorOf (hne : labels ≠ [])
    (hplain : ∀ label ∈ labels, IsPlain label.1 ∧ IsPlain label.2) :
    Text.split ',' (selectorOf labels) = labels.map fun label => String.ofList (termOf label) := by
  have hterms : ∀ term ∈ labels.map termOf, ',' ∉ term := by
    intro term hterm hcomma
    obtain ⟨label, hlabel, rfl⟩ := List.mem_map.mp hterm
    obtain ⟨hkey, hvalue⟩ := hplain label hlabel
    rcases List.mem_append.mp hcomma with hin | hin
    · exact (hkey _ hin).1 rfl
    · rcases List.mem_cons.mp hin with heq | hin
      · exact absurd heq (by decide)
      · exact (hvalue _ hin).1 rfl
  rw [Text.split, toList_selectorOf, Text.splitOnChar_intercalate hterms (by simpa using hne),
    List.map_map]
  rfl

theorem cutAtFirst_termOf (hkey : IsPlain label.1) :
    Text.cutAtFirst '=' (termOf label) = some (label.1.toList, label.2.toList) :=
  Text.cutAtFirst_eq_some_iff.mpr ⟨rfl, fun hin => (hkey _ hin).2.1 rfl⟩

/-- A selector names the labels that it was written for, in their order. -/
theorem labelsIn?_selectorOf (hne : labels ≠ [])
    (hplain : ∀ label ∈ labels, IsPlain label.1 ∧ IsPlain label.2) :
    labelsIn? (selectorOf labels) = some labels := by
  rw [labelsIn?, split_selectorOf hne hplain, List.mapM_map]
  clear hne
  induction labels with
  | nil => rfl
  | cons label rest ih =>
      obtain ⟨hkey, -⟩ := hplain label List.mem_cons_self
      rw [List.mapM_cons, ih fun label hlabel => hplain label (List.mem_cons_of_mem _ hlabel)]
      simp [cutAtFirst_termOf hkey]

/-- The cluster reads off a selector the labels that it was written for. -/
theorem selectorTerms_selectorOf (hne : labels ≠ [])
    (hplain : ∀ label ∈ labels, IsPlain label.1 ∧ IsPlain label.2) :
    selectorTerms (selectorOf labels) = labels := by
  have hwritten : (selectorOf labels).isEmpty = false := by
    simpa using selectorOf_ne_empty hne
  rw [selectorTerms, hwritten, split_selectorOf hne hplain, List.map_map]
  refine (List.map_congr_left fun label hlabel => ?_).trans (List.map_id labels)
  obtain ⟨hkey, hvalue⟩ := hplain label hlabel
  simp [selectorTerm, cutAtFirst_termOf hkey, hkey.strip_eq, hvalue.strip_eq]

/-- A written selector selects the pods of the namespace that carry every label. -/
theorem selects_selectorOf (name : Yaml) (hne : labels ≠ [])
    (hplain : ∀ label ∈ labels, IsPlain label.1 ∧ IsPlain label.2) :
    selects name (selectorOf labels) =
      fun pod => liesIn name pod && labels.all fun label => pod.hasLabel label := by
  funext pod
  rw [selects, selectorTerms_selectorOf hne hplain]

/-! ## Asking for the deployment and for its pods -/

variable {w : World} {ns name : Yaml} {deployment : String} {found : Deployment}

/-- Whether this is the deployment of a name in a namespace. -/
def isDeployment (deployment : String) (name : Yaml) (d : Deployment) : Bool :=
  d.name == deployment && Yaml.same (.text d.ns) name

/-- A cluster that has a deployment and answers the next request for it. -/
structure Offers (cluster : Cluster) (deployment : String) (name : Yaml) (found : Deployment) :
    Prop where
  deployment : cluster.deployments.find? (isDeployment deployment name) = some found
  read : cluster.broken .readDeployment cluster.requests = none

theorem Offers.hashable (h : Offers w.cluster deployment name found) : name.hashable = true := by
  have hfound : isDeployment deployment name found = true := List.find?_some h.deployment
  exact Yaml.hashable_of_same (Bool.and_eq_true_iff.mp hfound).2

theorem Offers.readDeployment_eq (h : Offers w.cluster deployment name found) :
    readDeployment deployment name w =
      (.ok found, w.requested (.readDeployment deployment name)) := by
  unfold readDeployment
  rw [request_bind_apply, h.read]
  dsimp only
  rw [lookupName_bind_apply, if_pos h.hashable, bind_of_ok (get_apply _)]
  change Cluster.found (w.cluster.deployments.find? (isDeployment deployment name)) _ = _
  rw [h.deployment]
  rfl

/-- Looking for a selector asks for the deployment and for nothing else, and what is found is never
the empty selector. -/
theorem exists_deploymentSelector (deployment : String) (ns : Yaml) (w : World) :
    ∃ answer, deploymentSelector deployment ns w =
        (answer, w.called (.readDeployment deployment (ns.orElse w.cluster.ns))) ∧
      ∀ selector, answer = .ok selector → selector ≠ "" := by
  have hworld : (readDeployment deployment (ns.orElse w.cluster.ns) w).2 = w.called _ :=
    (isCall_readDeployment deployment).world w
  unfold deploymentSelector
  rw [bind_of_ok (nsOr_apply ns w), bind_apply, ← hworld]
  rcases readDeployment deployment (ns.orElse w.cluster.ns) w with ⟨halt | found, w'⟩
  · exact ⟨_, rfl, nofun⟩
  · rcases hlabels : found.matchLabels with _ | _ | ⟨label, rest⟩
    · exact ⟨.error (.failed (.noMatchLabels deployment)), by simp only [hlabels]; rfl, nofun⟩
    · exact ⟨.error (.failed (.noMatchLabels deployment)), by simp only [hlabels]; rfl, nofun⟩
    · refine ⟨.ok (selectorOf (label :: rest)), by simp only [hlabels]; rfl, ?_⟩
      rintro _ ⟨⟩
      exact selectorOf_ne_empty (List.cons_ne_nil _ _)

/-- The selector of a deployment that is offered. -/
theorem Offers.deploymentSelector_eq
    (h : Offers w.cluster deployment (ns.orElse w.cluster.ns) found) :
    deploymentSelector deployment ns w =
      (match found.matchLabels with
        | some (label :: rest) => .ok (selectorOf (label :: rest))
        | _ => .error (.failed (.noMatchLabels deployment)),
        w.requested (.readDeployment deployment (ns.orElse w.cluster.ns))) := by
  unfold deploymentSelector
  rw [bind_of_ok (nsOr_apply ns w), bind_of_ok h.readDeployment_eq]
  rcases found.matchLabels with _ | _ | ⟨label, rest⟩ <;> rfl

theorem Offers.deploymentSelector_of_isUnlabelled
    (h : Offers w.cluster deployment (ns.orElse w.cluster.ns) found)
    (hunlabelled : found.IsUnlabelled) :
    deploymentSelector deployment ns w =
      (.error (.failed (.noMatchLabels deployment)),
        w.requested (.readDeployment deployment (ns.orElse w.cluster.ns))) := by
  rw [h.deploymentSelector_eq]
  rcases hlabels : found.matchLabels with _ | _ | ⟨label, rest⟩
  · rfl
  · rfl
  · exact absurd (found.isUnlabelled_iff.mp hunlabelled _ hlabels) (List.cons_ne_nil _ _)

/-- The pods are looked for in the namespace that the deployment is looked for in. -/
theorem deploymentPods_apply (deployment : String) (ns : Yaml) (w : World) :
    deploymentPods deployment ns w =
      (deploymentSelector deployment ns >>= listPods (ns.orElse w.cluster.ns)) w := by
  have hsame : deploymentSelector deployment (ns.orElse w.cluster.ns) w =
      deploymentSelector deployment ns w := by
    unfold deploymentSelector
    rw [bind_of_ok (nsOr_apply _ w), bind_of_ok (nsOr_apply _ w), Yaml.orElse_orElse]
  unfold deploymentPods
  rw [bind_of_ok (nsOr_apply ns w), bind_apply, hsame, ← bind_apply]

/-- The pods are listed once, with the selector of the deployment, and not at all if it has none. -/
theorem callsSince_deploymentPods (deployment : String) (ns : Yaml) (w : World) :
    callsSince w (deploymentPods deployment ns w).2 =
      .readDeployment deployment (ns.orElse w.cluster.ns) ::
        match (deploymentSelector deployment ns w).1 with
        | .ok selector => [.listPods (ns.orElse w.cluster.ns) selector]
        | .error _ => [] := by
  have hread : callsSince w (w.called (.readDeployment deployment (ns.orElse w.cluster.ns))) =
      [.readDeployment deployment (ns.orElse w.cluster.ns)] := by
    rw [callsSince_called (List.prefix_refl _) rfl, (Uncalled.refl w).callsSince_eq_nil]
    rfl
  obtain ⟨answer, hselector, -⟩ := exists_deploymentSelector deployment ns w
  rw [deploymentPods_apply, bind_apply, hselector]
  cases answer with
  | error halt => exact hread
  | ok selector =>
      change callsSince w (listPods (ns.orElse w.cluster.ns) selector _).2 = _
      rw [(isCall_listPods selector).world, callsSince_called (grew_called w _) rfl, hread]
      rfl

/-- A deployment's labels survive being written as a selector, so that the pods that are listed for
it are exactly those of the namespace that carry every one of its labels, in the order of the list.
For a deployment without labels no pod is listed, and none is ever listed with the empty selector.
-/
theorem deploymentPods_exact (deployment : String) (ns : Yaml) (w : World) {found : Deployment}
    (h : Offers w.cluster deployment (ns.orElse w.cluster.ns) found) :
    (∀ labels, found.matchLabels = some labels → labels ≠ [] →
      (∀ label ∈ labels, IsPlain label.1 ∧ IsPlain label.2) →
      ∃ selector, (deploymentSelector deployment ns w).1 = .ok selector ∧
        labelsIn? selector = some labels ∧
        callsSince w (deploymentPods deployment ns w).2 =
          [.readDeployment deployment (ns.orElse w.cluster.ns),
            .listPods (ns.orElse w.cluster.ns) selector] ∧
        ∀ pods, w.cluster.broken .listPods (w.cluster.requests + 1) = none →
          w.cluster.listAnswers w.cluster.listed = .ok pods →
          (deploymentPods deployment ns w).1 = .ok (pods.filter fun pod =>
            liesIn (ns.orElse w.cluster.ns) pod && labels.all fun label => pod.hasLabel label)) ∧
    (found.IsUnlabelled →
      (deploymentSelector deployment ns w).1 = .error (.failed (.noMatchLabels deployment)) ∧
      (deploymentPods deployment ns w).1 = .error (.failed (.noMatchLabels deployment)) ∧
      (Failure.noMatchLabels deployment).kind = .configuration ∧
      callsSince w (deploymentPods deployment ns w).2 =
        [.readDeployment deployment (ns.orElse w.cluster.ns)]) ∧
    ∀ listed selector, .listPods listed selector ∈ callsSince w (deploymentPods deployment ns w).2 →
      selector ≠ "" := by
  have hcalls := callsSince_deploymentPods deployment ns w
  have hpods := deploymentPods_apply deployment ns w
  refine ⟨fun labels hlabels hne hplain => ?_, fun hunlabelled => ?_,
    fun listed selector hlisted => ?_⟩
  · obtain ⟨label, rest, rfl⟩ := List.exists_cons_of_ne_nil hne
    have hselector := h.deploymentSelector_eq
    rw [hlabels] at hselector
    refine ⟨selectorOf (label :: rest), by rw [hselector], labelsIn?_selectorOf hne hplain,
      by rw [hcalls, hselector], fun pods hworking hanswer => ?_⟩
    let asked := w.requested (.readDeployment deployment (ns.orElse w.cluster.ns))
    have hlisted : asked.cluster.listAnswers asked.cluster.listed = .ok pods := hanswer
    rw [hpods, bind_of_ok hselector, listPods_of_working hworking, hlisted,
      selects_selectorOf _ hne hplain]
  · have hnone := h.deploymentSelector_of_isUnlabelled hunlabelled
    exact ⟨by rw [hnone], by rw [hpods, bind_of_error hnone], rfl, by rw [hcalls, hnone]⟩
  · obtain ⟨answer, hanswer, hwritten⟩ := exists_deploymentSelector deployment ns w
    rw [hcalls, hanswer] at hlisted
    cases answer with
    | error halt => simp at hlisted
    | ok chosen =>
        obtain ⟨-, rfl⟩ : listed = ns.orElse w.cluster.ns ∧ selector = chosen := by
          simpa using hlisted
        exact hwritten selector rfl

/-- An empty value is a label like any other, and a deployment without a specification has none. -/
theorem deploymentPods_exact_two_deployments :
    let pod (name : String) (labels : List (String × String)) : Pod :=
      ⟨some ⟨some name, some "default", labels, none, false⟩, none, none⟩
    let chosen := pod "web-0" [("tier", ""), ("app", "web")]
    let web : Deployment := ⟨"web", "default", some ⟨some ⟨some [("app", "web"), ("tier", "")]⟩⟩⟩
    let bare : Deployment := ⟨"bare", "default", none⟩
    let w := { World.empty with
      cluster := { Cluster.empty with
        deployments := [web, bare]
        listAnswers := fun _ => .ok [pod "web-1" [("app", "web")], chosen, pod "db-0" []] } }
    (deploymentPods "web" .null w).1 = .ok [chosen] ∧
      (deploymentPods "bare" .null w).1 = .error (.failed (.noMatchLabels "bare")) ∧
      callsSince w (deploymentPods "bare" .null w).2 =
        [.readDeployment "bare" (.text "default")] := by
  intro pod chosen web bare w
  have hweb : Offers w.cluster "web" (.text "default") web := ⟨by decide +kernel, rfl⟩
  have hbare : Offers w.cluster "bare" (.text "default") bare := ⟨by decide +kernel, rfl⟩
  obtain ⟨-, -, -, -, hpods⟩ := (deploymentPods_exact "web" .null w hweb).1
    [("app", "web"), ("tier", "")] rfl (by simp) (by decide)
  obtain ⟨-, hnone, -, hcalls⟩ := (deploymentPods_exact "bare" .null w hbare).2.1 nofun
  exact ⟨hpods _ rfl rfl, hnone, hcalls⟩

end Setup

end PodReach
