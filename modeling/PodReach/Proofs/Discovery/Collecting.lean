import PodReach.Proofs.Discovery.Newest

/-!
# Collecting the running pods of an image

The scan goes through the pods and, within each of them, through its containers. What it comes to
can be said without either loop: take the pods that use an image, in their order; the first of them
that is neither running nor completed decides, and if there is none, those that run are the result.
Nothing else about the list matters, so a pod counts once, however many of its containers match, and
a pod without a matching container never counts, whatever its status.
-/

namespace PodReach

namespace Pod

variable {images : List String} {pod : Pod}

/-- Whether a pod uses one of some images: it has a container whose image is one of them, or any
container if there are none. -/
def Uses (images : List String) (pod : Pod) : Prop :=
  ∃ spec c, pod.spec = some spec ∧ c ∈ spec.containers ∧
    (images = [] ∨ ∃ image, c.image = some image ∧ image ∈ images)

theorem uses_iff_hasImage {spec : PodSpec} (hspec : pod.spec = some spec) :
    pod.Uses images ↔ hasImage images spec = true := by
  have haccepted (c : Container) : imageAccepted images c.image = true ↔
      images = [] ∨ ∃ image, c.image = some image ∧ image ∈ images := by
    by_cases himages : images = []
    · simp [imageAccepted, himages]
    · simp [imageAccepted_iff himages, himages]
  rw [hasImage, List.any_eq_true]
  constructor
  · rintro ⟨spec', c, hspec', hc, himage⟩
    obtain rfl : spec = spec' := Option.some.inj (hspec.symm.trans hspec')
    exact ⟨c, hc, (haccepted c).mpr himage⟩
  · rintro ⟨c, hc, himage⟩
    exact ⟨spec, c, hspec, hc, (haccepted c).mp himage⟩

instance (images : List String) (pod : Pod) : Decidable (pod.Uses images) :=
  match hspec : pod.spec with
  | none => .isFalse (by simp [Uses, hspec])
  | some _ => decidable_of_iff _ (uses_iff_hasImage hspec).symm

end Pod

namespace Discovery

open Pod

variable {images : List String} {pod : Pod} {pods : List Pod}

/-- The pods of a list that use one of some images, in their order. -/
def users (images : List String) (pods : List Pod) : List Pod :=
  pods.filter (·.Uses images)

/-- Whether a pod is neither running nor completed. -/
def isUnsettled (pod : Pod) : Bool :=
  pod.status? != some "Running" && pod.status? != some "Completed"

/-- What a pod comes to that is neither running nor completed: it will not recover, or it has to be
waited for. -/
def complaint (pod : Pod) : Except Halt Collected :=
  match pod.status? with
  | some status =>
    if status ∈ Status.critical then .error (.failed (.criticalPod pod.name? status))
    else .ok .wait
  | none => .ok .wait

/-- What some pods come to that all use an image. -/
def judgement (pods : List Pod) : Except Halt Collected :=
  match pods.find? isUnsettled with
  | some pod => complaint pod
  | none => .ok (.ready (pods.filter fun pod => pod.status? == some "Running"))

/-! ## A pod in front -/

theorem judgement_of_unsettled (h : isUnsettled pod = true) :
    judgement (pod :: pods) = complaint pod := by
  rw [judgement, List.find?_cons_of_pos h]

theorem judgement_of_completed (h : pod.status? = some "Completed") :
    judgement (pod :: pods) = judgement pods := by
  simp [judgement, isUnsettled, h]

theorem judgement_of_running (h : pod.status? = some "Running") :
    judgement (pod :: pods) = (judgement pods).map fun
      | .wait => .wait
      | .ready found => .ready (pod :: found) := by
  have hsettled : ¬ isUnsettled pod = true := by simp [isUnsettled, h]
  rw [judgement, judgement, List.find?_cons_of_neg hsettled]
  cases pods.find? isUnsettled with
  | none => simp [h, Except.map]
  | some first =>
      dsimp only [complaint]
      split
      · split <;> rfl
      · rfl

/-! ## The scan -/

/-- On pods that can be looked at, the scan comes to what the pods that use an image come to. -/
theorem collect_eq_judgement (hpods : ∀ pod ∈ pods, pod.spec.isSome ∧ pod.status?.isSome) :
    collect images pods = judgement (users images pods) := by
  induction pods with
  | nil => rfl
  | cons pod rest ih =>
      obtain ⟨hpod, hrest⟩ := List.forall_mem_cons.mp hpods
      have ih := ih hrest
      obtain ⟨spec, hspec⟩ := Option.isSome_iff_exists.mp hpod.1
      obtain ⟨status, hstatus⟩ := Option.isSome_iff_exists.mp hpod.2
      have hcontribution : contribution images pod = _ := contribution_of_parts hstatus hspec
      by_cases huses : pod.Uses images
      · have husers : users images (pod :: rest) = pod :: users images rest :=
          List.filter_cons_of_pos (by simpa using huses)
        rw [if_pos ((uses_iff_hasImage hspec).mp huses), contributionOf] at hcontribution
        rw [husers, collect, hcontribution]
        split_ifs with hcritical hcompleted hrunning
        · -- a status that is critical is neither of the two
          have hunsettled : isUnsettled pod = true := by
            simp only [isUnsettled, hstatus, Bool.and_eq_true, bne_iff_ne, ne_eq,
              Option.some.injEq]
            constructor <;> rintro rfl <;> exact absurd hcritical (by decide)
          rw [judgement_of_unsettled hunsettled, complaint, hstatus]
          exact (if_pos (List.contains_iff_mem.mp hcritical)).symm
        · rw [beq_iff_eq] at hcompleted
          rw [judgement_of_completed (hstatus.trans (congrArg some hcompleted))]
          exact ih
        · rw [beq_iff_eq] at hrunning
          rw [judgement_of_running (hstatus.trans (congrArg some hrunning)), ← ih]
          change (collect images rest >>= _) = _
          rcases collect images rest with halt | _ | found <;> rfl
        · rw [beq_iff_eq] at hcompleted hrunning
          have hunsettled : isUnsettled pod = true := by
            simp [isUnsettled, hstatus, hcompleted, hrunning]
          rw [judgement_of_unsettled hunsettled, complaint, hstatus]
          exact (if_neg (hcritical ∘ List.contains_iff_mem.mpr)).symm
      · have husers : users images (pod :: rest) = users images rest :=
          List.filter_cons_of_neg (by simpa using huses)
        rw [if_neg (huses ∘ (uses_iff_hasImage hspec).mpr)] at hcontribution
        rw [husers, collect, hcontribution]
        exact ih

/-- What is found is what runs among the pods that use an image. -/
theorem eq_filter_of_judgement {found : List Pod} (h : judgement pods = .ok (.ready found)) :
    found = pods.filter fun pod => pod.status? == some "Running" := by
  unfold judgement at h
  cases hfirst : pods.find? isUnsettled with
  | none =>
      rw [hfirst] at h
      cases h
      rfl
  | some pod =>
      rw [hfirst] at h
      dsimp only [complaint] at h
      split at h
      · split at h <;> cases h
      · cases h

/-- **Collecting is filtering and then judging.** Of the pods that use an image, the first one that
is neither running nor completed decides: the scan fails with its name and its status if that is
critical, and waits otherwise. If there is none, the scan finds those that run, in their order, each
as often as it is listed and no more often for having several containers that match. -/
theorem collect_law (images : List String) {pods : List Pod}
    (hpods : ∀ pod ∈ pods, pod.spec.isSome ∧ pod.status?.isSome) :
    collect images pods = judgement (users images pods) ∧
    ∀ found, collect images pods = .ok (.ready found) → ∀ pod, found.count pod =
      if pod.Uses images ∧ pod.status? = some "Running" then pods.count pod else 0 := by
  have hcollect : collect images pods = _ := collect_eq_judgement hpods
  refine ⟨hcollect, fun found hfound pod => ?_⟩
  rw [hcollect] at hfound
  rw [eq_filter_of_judgement hfound, users, List.filter_filter]
  split_ifs with hcounts
  · exact List.count_filter (by simpa [and_comm] using hcounts)
  · rw [List.count_eq_zero, List.mem_filter]
    rintro ⟨-, hmem⟩
    exact hcounts (by simpa [and_comm] using hmem)

/-- A pod of another image crashes and one of the image is done. The pod that is found is listed
twice and has two containers of the image. -/
theorem collect_law_listed_twice :
    let pod (name phase : String) (images : List String) : Pod :=
      { metadata := some ⟨some name, some "default", [], none, false⟩
        spec := some ⟨images.map fun image => ⟨some "main", some image, false, false⟩, 0⟩
        status := some ⟨some phase, none, [], []⟩ }
    let web := pod "web" "Running" ["app:v1", "proxy:v2", "app:v1"]
    let pods := [pod "db" "Error" ["db:v1"], web, pod "job" "Completed" ["app:v1"], web]
    (∀ pod ∈ pods, pod.spec.isSome ∧ pod.status?.isSome) ∧
      collect ["app:v1"] pods = .ok (.ready [web, web]) ∧
      [web, web].count web = pods.count web := by
  intro pod web pods
  have hpods : ∀ pod ∈ pods, pod.spec.isSome ∧ pod.status?.isSome := by decide +kernel
  obtain ⟨hcollect, hcount⟩ := collect_law ["app:v1"] hpods
  have hfound : collect ["app:v1"] pods = .ok (.ready [web, web]) :=
    hcollect.trans (by decide +kernel)
  exact ⟨hpods, hfound, (hcount _ hfound web).trans (if_pos (by decide +kernel))⟩

end Discovery

end PodReach
