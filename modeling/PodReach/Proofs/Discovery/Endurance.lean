import PodReach.Discovery.Resolve
import PodReach.Proofs.Discovery.Collecting
import PodReach.Proofs.Discovery.RunningSearch
import PodReach.Proofs.World.Endurance

/-!
# What can come of a search in a sound world

A search that knows which pod is meant reads it, and any other one counts its budget down. If that
is a number that can be counted down, the search ends with pods of the cluster, with an expected
failure or with what a call raises. It can also be endless, but it never ends by a mistake.
-/

namespace PodReach

open Run

/-- A selector that says which pod is meant, or how long looking for it may take. -/
def Selector.Bounded (selector : Selector) : Prop :=
  (∃ name, Text.nonempty selector.podName = some name) ∨
    ∃ budget, Budget.ofSetting selector.maxWait = .seconds budget

/-- A status can be said of a pod that is reported. -/
theorem Pod.Reported.isSome_status? {pod : Pod} (h : pod.Reported) : pod.status?.isSome :=
  Option.isSome_iff_exists.mpr h.toComplete.status?_isSome

namespace Discovery

variable {w₀ : World} {pods : List Pod} {s : Search} {selector : Selector}

/-! ## One list of pods -/

/-- The newest of some pods is one of them. -/
theorem within_newest (images : List String) (hpods : ∀ pod ∈ pods, pod.Reported) :
    Within (Tolerable w₀) (fun found? => ∀ pod, found? = some pod → pod ∈ pods)
      (newest images pods) := by
  have hdeclared := Pod.forall_declared fun pod hpod => (hpods pod hpod).toComplete
  rcases newest_cases images hdeclared with ⟨found, hfound, hnewest⟩ | ⟨hnone, -⟩
  · rw [hfound]
    rintro _ ⟨⟩
    exact hnewest.mem
  · rw [hnone]
    exact nofun

/-- What settles a search is some of the pods, or a pod that will not recover. -/
theorem within_settled (minWait : Double) (hpods : ∀ pod ∈ pods, pod.Reported) :
    Within (Tolerable w₀) (fun found? => ∀ found, found? = some found → ∀ pod ∈ found, pod ∈ pods)
      (s.settled minWait pods) := by
  unfold Search.settled
  split
  · exact nofun
  · cases hcollect : collect s.images pods with
    | error halt =>
        rcases collect_error hcollect with ⟨name, status, rfl⟩ | ⟨-, hincomplete⟩
        · exact .failed _
        · exact absurd (fun pod hpod => (hpods pod hpod).toComplete) hincomplete
    | ok collected =>
        cases collected with
        | wait => exact nofun
        | ready found =>
            have hmem : ∀ pod ∈ found, pod ∈ pods := by
              rw [collect_eq_judgement fun pod hpod =>
                ⟨(hpods pod hpod).spec, (hpods pod hpod).isSome_status?⟩] at hcollect
              rw [eq_filter_of_judgement hcollect]
              exact fun pod hpod => List.mem_of_mem_filter (List.mem_of_mem_filter hpod)
            change Within _ _ (if _ then _ else _)
            split
            · rintro _ ⟨⟩
              exact hmem
            · exact nofun

/-! ## Rounds -/

theorem endures_newestRound (grace start : Double) :
    Endures w₀ (Tolerable w₀) (fun found? => ∀ pod, found? = some pod → pod.Reported)
      (s.newestRound grace start) := by
  refine (endures_pause _).bind fun _ _ => ?_
  refine (Cluster.endures_listPods (fun _ => .raised) _ _).bind fun pods hpods => ?_
  refine (endures_ofExcept (within_newest s.images hpods)).bind fun found? hfound => ?_
  cases found? with
  | none =>
      refine endures_readClock.bind fun now _ => ?_
      dsimp only
      split
      · exact endures_throw (.failed _)
      · exact endures_none
  | some pod =>
      have hpod := hpods pod (hfound pod rfl)
      refine (endures_need_isSome hpod.isSome_status?).bind fun _ _ => ?_
      split
      · exact endures_pure fun _ heq => Option.some.inj heq ▸ hpod
      · split
        · exact endures_throw (.failed _)
        · exact endures_none

theorem endures_newestRunning (grace start : Double) (rounds : Nat) (budget : Double) :
    Endures w₀ (Tolerable w₀) Pod.Reported (s.newestRunning grace start rounds budget) := by
  induction rounds generalizing budget with
  | zero => exact endures_throw .endless
  | succ rounds ih =>
      refine (endures_newestRound grace start).bind fun found? hfound => ?_
      cases found? with
      | some pod => exact endures_pure (hfound pod rfl)
      | none =>
          refine (endures_pause _).bind fun _ _ => ?_
          dsimp only
          split
          · exact endures_throw (.failed _)
          · exact ih _

theorem endures_runningRound (minWait : Double) :
    Endures w₀ (Tolerable w₀) (fun found? => ∀ found, found? = some found →
      ∀ pod ∈ found, pod.Reported) (s.runningRound minWait) := by
  refine (endures_pause _).bind fun _ _ => ?_
  refine (Cluster.endures_listPods (fun _ => .raised) _ _).bind fun pods hpods => ?_
  refine (endures_ofExcept (within_settled minWait hpods)).mono (fun _ => id) ?_
  exact fun found? hfound found heq pod hpod => hpods pod (hfound found heq pod hpod)

theorem endures_running (rounds : Nat) (budget minWait : Double) :
    Endures w₀ (Tolerable w₀) (fun found => ∀ pod ∈ found, pod.Reported)
      (s.running rounds budget minWait) := by
  induction rounds generalizing budget minWait with
  | zero => exact endures_throw .endless
  | succ rounds ih =>
      rw [Search.running]
      split
      · refine (endures_runningRound minWait).bind fun found? hfound => ?_
        cases found? with
        | some found => exact endures_pure (hfound found rfl)
        | none => exact (endures_pause _).bind fun _ _ => ih _ _
      · exact endures_throw (.failed _)

/-! ## Searches -/

theorem endures_newestRunningPod (s : Search) {maxWait : Yaml} {budget : Double}
    (h : Budget.ofSetting maxWait = .seconds budget) (grace : Double) :
    Endures w₀ (Tolerable w₀) Pod.Reported (newestRunningPod s maxWait grace) := by
  refine endures_readClock.bind fun start _ => ?_
  rw [h]
  exact endures_newestRunning _ _ _ _

theorem endures_runningPodsWithImage (s : Search) {maxWait : Yaml} {budget : Double}
    (h : Budget.ofSetting maxWait = .seconds budget) (minWait : Double) :
    Endures w₀ (Tolerable w₀) (fun found => ∀ pod ∈ found, pod.Reported)
      (runningPodsWithImage s maxWait minWait) := by
  unfold runningPodsWithImage
  rw [h]
  exact endures_running _ _ _

/-- A pod that is read by its name is reported as it is. -/
theorem endures_readNamedPod (name : String) (ns : Yaml) :
    Endures w₀ (Tolerable w₀) Pod.Reported (readNamedPod name ns) := by
  refine (Cluster.endures_readPod (fun _ => .raised) _ _).bind fun pod hpod => ?_
  refine (endures_need_isSome hpod.isSome_status?).bind fun _ _ => ?_
  split
  · exact endures_throw (.failed _)
  · exact endures_pure hpod

theorem endures_resolveNewestPod (h : selector.Bounded) (interval grace : Double) :
    Endures w₀ (Tolerable w₀) Pod.Reported (resolveNewestPod selector interval grace) := by
  refine endures_get.bind fun w _ => ?_
  cases hname : Text.nonempty selector.podName with
  | some name => exact endures_readNamedPod _ _
  | none =>
      rcases h with ⟨name, hnamed⟩ | ⟨budget, hbudget⟩
      · rw [hname] at hnamed
        cases hnamed
      · exact endures_newestRunningPod _ hbudget _

theorem endures_resolvePods (h : selector.Bounded) (interval minWait : Double) :
    Endures w₀ (Tolerable w₀) (fun found => ∀ pod ∈ found, pod.Reported)
      (resolvePods selector interval minWait) := by
  refine endures_get.bind fun w _ => ?_
  cases hname : Text.nonempty selector.podName with
  | some name =>
      refine (endures_readNamedPod name _).bind fun pod hpod => endures_pure fun found hmem => ?_
      exact List.mem_singleton.mp hmem ▸ hpod
  | none =>
      rcases h with ⟨name, hnamed⟩ | ⟨budget, hbudget⟩
      · rw [hname] at hnamed
        cases hnamed
      · exact endures_runningPodsWithImage _ hbudget _

/-! ## Containers -/

theorem endures_selectContainer {pod : Pod} (hpod : pod.Reported) (selector : Selector)
    {picker : Picker}
    (hpicker : ∀ containers, Endures w₀ (Tolerable w₀) Whatever (picker containers)) :
    Endures w₀ (Tolerable w₀) Whatever (selectContainer pod selector (some picker)) := by
  have hneed {α : Type} (failure : Metadata → Failure) : Endures w₀ (Tolerable w₀) Whatever
      (do let metadata ← need pod.metadata; fail (failure metadata) : Run α) :=
    (endures_need_isSome hpod.metadata).bind fun _ _ => endures_throw (.failed _)
  refine (endures_need_isSome hpod.spec).bind fun spec _ => ?_
  split
  · exact hneed _
  · split
    · split
      · exact endures_pure trivial
      · exact hneed _
    · split
      · exact endures_pure trivial
      · unfold preferredContainer
        split
        · exact endures_pure trivial
        · exact (hpicker _).bind fun _ _ => endures_pure trivial

end Discovery

end PodReach
