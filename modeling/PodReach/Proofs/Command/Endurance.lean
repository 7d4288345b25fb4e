import PodReach.Command.Container
import PodReach.Command.Forward
import PodReach.Proofs.Command.Listing
import PodReach.Proofs.Discovery.Endurance
import PodReach.Proofs.Forward.Endurance
import PodReach.Proofs.Session.Endurance
import PodReach.Proofs.Setup.Endurance

/-!
# What can come of a command in a sound world

Commands meet no mistake in a sound world: their pods have every part they look at, a pod that was
chosen is read by its name, and any other search has a budget that can be counted down.
-/

namespace PodReach

open Run

variable {w₀ : World} {E : Halt → Prop}

/-! ## Pods -/

namespace Pod.Reported

variable {pod : Pod}

theorem exists_name (h : pod.Reported) :
    ∃ metadata name, pod.metadata = some metadata ∧ metadata.name = some name ∧ name ≠ "" := by
  obtain ⟨name, hname, hne⟩ := h.named
  obtain ⟨metadata, hmetadata, hname⟩ := Option.bind_eq_some_iff.mp hname
  exact ⟨metadata, name, hmetadata, hname, hne⟩

theorem listable (h : pod.Reported) : pod.Listable := by
  obtain ⟨name, hname, -⟩ := h.named
  exact ⟨h.toComplete, Option.isSome_iff_exists.mpr ⟨name, hname⟩⟩

theorem exists_choiceName (h : pod.Reported) : ∃ name, choiceName? pod = some name := by
  obtain ⟨metadata, hmetadata⟩ := Option.isSome_iff_exists.mp h.metadata
  obtain ⟨status, hstatus⟩ := h.toComplete.status?_isSome
  exact ⟨_, by simp only [choiceName?, hmetadata, hstatus]; rfl⟩

end Pod.Reported

theorem Pod.endures_showTable {pods : List Pod} (h : ∀ pod ∈ pods, pod.Reported)
    (title : String) : Endures w₀ (Tolerable w₀) Whatever (showTable pods title) := by
  refine endures_get.bind fun w _ => ?_
  obtain ⟨rows, hrows, -⟩ := rows?_of_listable (fun pod hpod => (h pod hpod).listable) w.now 1
  refine (endures_need ⟨rows, hrows, trivial⟩ : Endures w₀ _ Whatever _).bind fun _ _ => ?_
  exact endures_table _

/-- A pod that is chosen is one of those offered. -/
theorem Pod.endures_choose {pods : List Pod} (h : ∀ pod ∈ pods, pod.Reported)
    (question : String) :
    Endures w₀ (Tolerable w₀) (fun chosen => ∀ pod, chosen = some pod → pod ∈ pods)
      (choose pods question) := by
  unfold choose
  split
  · exact (endures_line _).bind fun _ _ => endures_none
  · refine endures_pure fun pod hpod => ?_
    cases hpod
    exact List.mem_cons_self
  · refine (endures_need_mapM fun pod hpod => ?_).bind ?_
    · obtain ⟨name, hname⟩ := (h pod hpod).exists_choiceName
      exact ⟨(name, some pod), by rw [hname]; rfl⟩
    · rintro _ rfl
      refine (PodReach.endures_choose _ _ _).mono (fun _ => id) ?_
      rintro _ ⟨name, hmem⟩ pod rfl
      obtain ⟨offered, hoffered, hname⟩ := List.mem_filterMap.mp
        ((List.mem_append.mp hmem).resolve_right (by simp))
      obtain ⟨_, -, hchoice⟩ := Option.map_eq_some_iff.mp hname
      cases hchoice
      exact hoffered

theorem Container.endures_choose (containers : List Container) (question : String) :
    Endures w₀ (Tolerable w₀) Whatever (choose containers question) := by
  unfold choose
  split
  · exact endures_pure trivial
  · exact endures_pure trivial
  · exact (PodReach.endures_choose _ _ _).whatever

namespace Command

open Discovery Session Forward

/-! ## Targets -/

/-- A selector that someone chose names a pod. -/
theorem endures_chooseSelector (selector : Selector) :
    Endures w₀ (Tolerable w₀) (fun chosen? => ∀ chosen, chosen? = some chosen →
      ∃ name, chosen.podName = some name ∧ name ≠ "") (chooseSelector selector) := by
  refine endures_get.bind fun w _ => ?_
  refine (Cluster.endures_listPods (fun _ => .raised) _ _).bind fun pods hpods => ?_
  refine (endures_need_mapM fun pod hpod => ?_).bind ?_
  · obtain ⟨status, hstatus⟩ := (hpods pod hpod).toComplete.status?_isSome
    exact ⟨(pod, status), by rw [hstatus]; rfl⟩
  rintro statuses hstatuses
  have hrunning : ∀ pod ∈ (statuses.filter fun entry => entry.2 == "Running").map (·.1),
      pod.Reported := by
    intro pod hpod
    obtain ⟨⟨_, status⟩, hmem, rfl⟩ := List.mem_map.mp hpod
    obtain ⟨listed, hlisted, hstatus⟩ :=
      List.mem_filterMap.mp (hstatuses ▸ (List.mem_filter.mp hmem).1)
    obtain ⟨_, -, hpair⟩ := Option.map_eq_some_iff.mp hstatus
    cases hpair
    exact hpods _ hlisted
  dsimp only
  split
  · exact (endures_line _).bind fun _ _ => endures_none
  · refine (Pod.endures_choose hrunning _).bind fun chosen? hchosen => ?_
    cases chosen? with
    | none => exact endures_none
    | some pod =>
        obtain ⟨metadata, name, hmetadata, hname, hne⟩ :=
          (hrunning pod (hchosen pod rfl)).exists_name
        refine (endures_need ⟨metadata, hmetadata, rfl⟩ :
          Endures w₀ _ (fun m => m = metadata) _).bind ?_
        rintro _ rfl
        refine endures_pure fun chosen heq => ?_
        cases heq
        exact ⟨name, hname, hne⟩

theorem endures_containerPicker (interactive : Bool) (containers : List Container) :
    Endures w₀ (Tolerable w₀) Whatever (containerPicker interactive containers) := by
  refine (endures_display _).bind fun _ _ => ?_
  split
  · exact Container.endures_choose _ _
  · exact endures_pure trivial

theorem endures_resolveSelector {selector : Selector} (h : selector.Bounded) (interactive : Bool) :
    Endures w₀ (Tolerable w₀) (fun target => target.1.Reported)
      (resolveSelector selector interactive) := by
  refine (endures_spinner _).bind fun _ _ => ?_
  refine (endures_resolveNewestPod h _ _).bind fun pod hpod => ?_
  refine (endures_selectContainer hpod selector (endures_containerPicker interactive)).bind
    fun _ _ => ?_
  exact endures_pure hpod

/-- The target of a selector is a pod that was chosen or found. -/
theorem endures_resolveTarget {selector : Selector}
    (h : selector.isEmpty = true ∨ selector.Bounded) :
    Endures w₀ (Tolerable w₀)
      (fun target? => ∀ target, target? = some target → target.1.Reported)
      (resolveTarget selector true) := by
  have hsome {selector : Selector} (hbounded : selector.Bounded) : Endures w₀ (Tolerable w₀)
      (fun target? => ∀ target, target? = some target → target.1.Reported)
      (do return some (← resolveSelector selector true)) := by
    refine (endures_resolveSelector hbounded true).bind fun target htarget => ?_
    exact endures_pure fun _ heq => Option.some.inj heq ▸ htarget
  unfold resolveTarget
  by_cases hempty : selector.isEmpty = true
  · rw [if_pos (by rw [hempty]; rfl)]
    refine (endures_chooseSelector selector).bind fun chosen? hchosen => ?_
    cases chosen? with
    | none => exact endures_none
    | some chosen =>
        obtain ⟨name, hname, hne⟩ := hchosen chosen rfl
        exact hsome (Or.inl ⟨name, by simp [hname, Text.nonempty, hne]⟩)
  · rw [if_neg (by simp [hempty])]
    exact hsome (h.resolve_left hempty)

/-! ## Commands -/

/-- Pods that have names can be sorted. -/
theorem within_sortByName {pods : List Pod} (h : ∀ pod ∈ pods, pod.Reported) :
    Within E (fun sorted => ∀ pod ∈ sorted, pod.Reported) (sortByName pods) := by
  rw [sortByName_eq fun pod hpod => (h pod hpod).listable]
  intro pod hpod
  exact h pod (List.mem_mergeSort.mp hpod)

theorem endures_warnAboutBroken {pods : List Pod} (h : ∀ pod ∈ pods, pod.Reported) :
    Endures w₀ (Tolerable w₀) Whatever (warnAboutBroken pods) := by
  intro w hw
  rw [warnAboutBroken_eq fun pod hpod => (h pod hpod).listable]
  exact endures_forM (fun _ _ => endures_line _) w hw

/-- Pods are listed, those of a deployment only if the namespace can be looked up. -/
theorem endures_listPodsOf {ns : Yaml} (labels : String) {deployment : Option String}
    (h : Text.nonempty deployment ≠ none → ns.hashable = true) :
    Endures w₀ (Tolerable w₀) Whatever (listPodsOf ns labels deployment) := by
  refine Endures.bind (P := fun name => Text.nonempty deployment ≠ none → name.hashable = true)
    (endures_get.bind fun w hw => ?_) fun name hname => ?_
  · exact endures_pure fun hsome => Yaml.hashable_orElse (h hsome) hw.ns
  refine (endures_line _).bind fun _ _ => (endures_line _).bind fun _ _ => ?_
  have hshow {pods : List Pod} (hpods : ∀ pod ∈ pods, pod.Reported) :
      Endures w₀ (Tolerable w₀) Whatever
        (if pods.isEmpty then Console.warning "当前命名空间下没有任何 Pod" else do
          let sorted ← ofExcept (sortByName pods)
          Pod.showTable sorted s!"Pods ({name.shown})"
          warnAboutBroken sorted) := by
    split
    · exact endures_line _
    · refine (endures_ofExcept (within_sortByName hpods)).bind fun sorted hsorted => ?_
      exact (Pod.endures_showTable hsorted _).bind fun _ _ => endures_warnAboutBroken hsorted
  dsimp only
  split
  · rename_i found hfound
    have hns : name.hashable = true := hname (by rw [hfound]; exact Option.some_ne_none found)
    exact (Setup.endures_deploymentPods _ hns).bind fun _ => hshow
  · exact (Cluster.endures_listPods (fun _ => .raised) _ _).bind fun _ => hshow

theorem endures_waitForPods {selector : Selector} (h : selector.Bounded) :
    Endures w₀ (Tolerable w₀) Whatever (waitForPods selector) := by
  refine (endures_spinner _).bind fun _ _ => ?_
  refine (endures_resolvePods h _ _).bind fun pods hpods => ?_
  dsimp only
  split
  · exact (endures_line _).bind fun _ _ => endures_pure trivial
  · refine (endures_line _).bind fun _ _ => (Pod.endures_showTable hpods _).bind fun _ _ => ?_
    exact endures_pure trivial

theorem endures_initCluster {ns : Yaml} (h : ns.hashable = true) (secrets : List String) :
    Endures w₀ (Tolerable w₀) Whatever (initCluster ns secrets) := by
  refine (Setup.endures_nsOr h).bind fun name hname => ?_
  refine (Setup.endures_ensureNamespace hname).bind fun _ _ => ?_
  refine (Setup.endures_ensureBinding Setup.endures_cloudAccount).bind fun _ _ => ?_
  dsimp only
  split
  · refine (Setup.endures_addPullSecrets secrets hname "default").bind fun added _ => ?_
    split <;> exact (endures_line _).bind fun _ _ => endures_line _
  · exact endures_line _

section Target

variable {selector : Selector} (h : selector.isEmpty = true ∨ selector.Bounded)
include h

theorem endures_attachToPod :
    Endures w₀ (Tolerable w₀) Whatever (attachToPod selector) := by
  refine (endures_resolveTarget h).bind fun target? htarget => ?_
  split
  · exact endures_pure trivial
  · rename_i pod container
    refine (endures_attach (htarget _ rfl) _ _).bind fun _ _ => ?_
    exact endures_line _

/-- A shell is run if it is a text. -/
theorem endures_shellIntoPod (command : List String) {shell : Yaml}
    (hshell : ∃ text, shell = .text text) :
    Endures w₀ (Tolerable w₀) Whatever (shellIntoPod selector command shell) := by
  obtain ⟨text, rfl⟩ := hshell
  have hwords : Within (Tolerable w₀) Whatever (shellWords command (.text text)) := by
    unfold shellWords
    split <;> trivial
  refine (endures_resolveTarget h).bind fun target? htarget => ?_
  split
  · exact endures_pure trivial
  · rename_i pod container
    have hattach (words : Option (List String)) :
        Endures w₀ (Tolerable w₀) Whatever (attach pod container words) :=
      endures_attach (htarget _ rfl) container words
    refine (endures_ofExcept hwords).bind fun words _ => ?_
    refine (endures_line _).bind fun _ _ => (hattach _).bind fun first _ => ?_
    dsimp only
    split
    · refine (hattach _).bind fun last _ => (endures_line _).bind fun _ _ => ?_
      exact endures_pure trivial
    · exact (endures_line _).bind fun _ _ => endures_pure trivial

theorem endures_viewLogs (follow : Bool) (tail : Yaml) :
    Endures w₀ (Tolerable w₀) Whatever (viewLogs selector follow tail) := by
  refine (endures_resolveTarget h).bind fun target? htarget => ?_
  split
  · exact endures_pure trivial
  · rename_i pod container
    dsimp only
    split
    all_goals
      refine (endures_line _).bind fun _ _ => (endures_line _).bind fun _ _ => ?_
      refine (Endures.attempt (E := Tolerable w₀) (P := Whatever) ?_).bind
        fun viewed hviewed => ?_
      · refine (endures_logLines (htarget _ rfl) _ _ _).bind fun read hread => ?_
        refine (endures_forM fun line _ => endures_styled _ _).bind fun _ _ => ?_
        split
        · rename_i halt hhalt
          exact endures_throw (hread halt hhalt)
        · exact endures_pure trivial
      · split
        · split
          · exact endures_line _
          · exact endures_pure trivial
        · exact endures_line _
        · exact endures_throw hviewed

omit h in
theorem endures_waitForEnd (job : Job) (f : Forwarder) (addresses : List String) :
    Endures w₀ (Tolerable w₀) Whatever (waitForEnd job f addresses) := by
  have hreport : Endures w₀ (Tolerable w₀) Whatever
      (reportForwarding (Text.orNone job.podName) addresses f.ports) := by
    refine (endures_line _).bind fun _ _ => ?_
    exact (endures_forM fun port _ => endures_line _).bind fun _ _ => endures_line _
  refine hreport.attempt.bind fun reported hreported => ?_
  split
  · refine (endures_step job f _).bind fun seen _ => ?_
    split
    · exact endures_throw (.failed _)
    · exact endures_throw .endless
  · refine (endures_line _).bind fun _ _ => (endures_step job f _).bind fun _ _ => ?_
    exact endures_line _
  · exact (endures_step job f _).bind fun _ _ => endures_throw hreported

omit h in
theorem endures_warnIfReachable (address : Yaml) :
    Endures w₀ (Tolerable w₀) Whatever (warnIfReachable address) := by
  unfold warnIfReachable
  dsimp only
  split
  · exact endures_line _
  · exact endures_pure trivial

omit h in
theorem addressTexts?_map_text (addresses : List String) :
    addressTexts? (addresses.map .text) = some addresses := by
  unfold addressTexts?
  rw [Outcome.mapM_eq_filterMap (by simp), List.filterMap_map]
  exact congrArg some List.filterMap_some

/-- Ports are forwarded if the addresses are texts that name hosts. -/
theorem endures_forwardPorts (ports : List String) {addresses : List String}
    (hhosts : ∀ host ∈ resolveAddresses addresses, w₀.network.takesHost host = true) :
    Endures w₀ (Tolerable w₀) Whatever (forwardPorts selector ports (addresses.map .text)) := by
  refine (endures_resolveTarget h).bind fun target? htarget => ?_
  split
  · exact endures_pure trivial
  · rename_i pod container
    refine (endures_forM fun address _ => endures_warnIfReachable address).bind fun _ _ => ?_
    rw [addressTexts?_map_text]
    refine (endures_makeJob (htarget _ rfl) _ _).bind fun job hjob => ?_
    refine (endures_start (hjob ▸ hhosts)).bind fun f hf => ?_
    split
    · exact endures_throw (.failed _)
    · rename_i mistake hmistaken
      exact absurd hmistaken (hf mistake)
    · refine endures_get.bind fun w _ => (endures_follow job f _).bind fun served _ => ?_
      exact endures_waitForEnd job served addresses

end Target

end Command

end PodReach
