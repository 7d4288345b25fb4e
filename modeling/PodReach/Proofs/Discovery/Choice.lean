import PodReach.Proofs.Discovery.Newest
import PodReach.Proofs.Instant

/-!
# What the choice of the newest pod depends on

The scan for the newest pod looks at the time of a pod before it looks at its images. Its choice
does not show that: pods that do not pass the image filter might as well be missing, and where no
two pods that pass are created at the same time, the order of the list does not matter either.

The time of creation is a binary64 number of seconds, for the scan as for everything that is said
about it here. For centuries around the epoch these numbers are ordered as the instants they come
from.
-/

namespace PodReach

namespace Pod

variable {images : List String} {pod : Pod} {pods shuffled : List Pod}

/-- The instant of creation: a missing one counts as the epoch. -/
def bornAt (pod : Pod) : Instant :=
  (pod.metadata.bind (·.created)).getD ⟨0⟩

theorem created_eq_secondsOf (pod : Pod) :
    pod.created = Instant.secondsOf pod.bornAt.micros := by
  have hepoch : Instant.secondsOf 0 = .finite 0 := by decide +kernel
  unfold created bornAt
  cases pod.metadata with
  | none => exact hepoch.symm
  | some metadata =>
      simp only [Option.map_some, Option.getD_some, Option.bind_some, createdAt]
      cases metadata.created with
      | none => exact hepoch.symm
      | some t => rfl

theorem created_eq_iff_rank (first second : Pod) :
    first.created.eq second.created = true ↔ first.created.rank = second.created.rank := by
  rw [Double.eq, Bool.and_eq_true, created_le_iff, created_le_iff, le_antisymm_iff]

instance (images : List String) (pod : Pod) : Decidable (pod.Passes images) :=
  if himages : images = [] then .isTrue (Or.inl himages)
  else match hspec : pod.spec with
    | none => .isFalse (by simp [Passes, himages, hspec])
    | some _ => decidable_of_iff _ (passes_iff_hasImage himages hspec).symm

/-- Different pods of a list that pass an image filter are created at different times. -/
def CreatedApart (images : List String) (pods : List Pod) : Prop :=
  ∀ first ∈ pods, ∀ second ∈ pods, first.Passes images → second.Passes images →
    first.created.eq second.created = true → first = second

/-- The newest pod stays the newest when the pods that do not pass are left out. -/
theorem IsNewest.filter (h : IsNewest images pod pods) :
    IsNewest images pod (pods.filter (·.Passes images)) := by
  obtain ⟨before, after, rfl, hpasses, hbefore, hafter⟩ := h
  refine ⟨before.filter (·.Passes images), after.filter (·.Passes images), ?_, hpasses, ?_, ?_⟩
  · rw [List.filter_append, List.filter_cons_of_pos (by simpa using hpasses)]
  · exact fun other hother => hbefore other (List.mem_filter.mp hother).1
  · exact fun other hother => hafter other (List.mem_filter.mp hother).1

/-- The newest pod stays the newest when the list is reordered, unless another one is as new. -/
theorem IsNewest.perm (h : IsNewest images pod pods) (hperm : pods.Perm shuffled)
    (hapart : CreatedApart images pods) : IsNewest images pod shuffled := by
  obtain ⟨before, after, rfl, hfirst⟩ := List.eq_append_cons_of_mem (hperm.mem_iff.mp h.mem)
  have hmem {other : Pod} (hother : other ∈ before ++ pod :: after) : other ∈ pods :=
    hperm.mem_iff.mpr hother
  refine ⟨before, after, rfl, h.passes, ?_, ?_⟩
  · intro other hother hpasses
    have hle := h.rank_le (hmem (List.mem_append_left _ hother)) hpasses
    refine (created_lt_iff other pod).mpr (lt_of_le_of_ne hle fun hsame => hfirst ?_)
    have heq := hapart other (hmem (List.mem_append_left _ hother)) pod h.mem hpasses h.passes
      ((created_eq_iff_rank other pod).mpr hsame)
    exact heq ▸ hother
  · intro other hother hpasses
    have hmem' := hmem (List.mem_append_right _ (List.mem_cons_of_mem _ hother))
    exact (created_le_iff other pod).mpr (h.rank_le hmem' hpasses)

end Pod

namespace Discovery

open Pod

variable (images : List String) {pods shuffled : List Pod}

/-- The pods that do not pass the image filter do not matter. -/
theorem newest_filter (hpods : ∀ pod ∈ pods, pod.metadata.isSome ∧ pod.spec.isSome) :
    newest images (pods.filter (·.Passes images)) = newest images pods := by
  have hkept : ∀ pod ∈ pods.filter (·.Passes images), pod.metadata.isSome ∧ pod.spec.isSome :=
    fun pod hpod => hpods pod (List.mem_filter.mp hpod).1
  rcases newest_cases images hpods with ⟨pod, hscan, hnewest⟩ | ⟨hscan, hnone⟩
  · rw [hscan, newest_eq_some_iff images hkept]
    exact hnewest.filter
  · rw [hscan, newest_eq_none_iff images hkept]
    exact fun pod hpod => hnone pod (List.mem_filter.mp hpod).1

/-- Where the times of creation differ, the order of the pods does not matter. -/
theorem newest_perm (hpods : ∀ pod ∈ pods, pod.metadata.isSome ∧ pod.spec.isSome)
    (hperm : pods.Perm shuffled) (hapart : CreatedApart images pods) :
    newest images shuffled = newest images pods := by
  have hshuffled : ∀ pod ∈ shuffled, pod.metadata.isSome ∧ pod.spec.isSome :=
    fun pod hpod => hpods pod (hperm.mem_iff.mpr hpod)
  rcases newest_cases images hpods with ⟨pod, hscan, hnewest⟩ | ⟨hscan, hnone⟩
  · rw [hscan, newest_eq_some_iff images hshuffled]
    exact hnewest.perm hperm hapart
  · rw [hscan, newest_eq_none_iff images hshuffled]
    exact fun pod hpod => hnone pod (hperm.mem_iff.mpr hpod)

/-- **The choice is the first maximum of the pods that pass.** The scan finds nothing if and only if
no pod passes the image filter, and otherwise the pod that is created no earlier than any pod that
passes and later than those of them that are listed before it. Pods that do not pass change nothing,
however new they are, and where no two of the others are created at the same time, neither does the
order of the list. Creation times are seconds in binary64, a missing one being the epoch; for
centuries around the epoch comparing them is comparing the instants. -/
theorem newest_law (images : List String) {pods : List Pod}
    (hpods : ∀ pod ∈ pods, pod.metadata.isSome ∧ pod.spec.isSome) :
    (∃ found, newest images pods = .ok found) ∧
    (newest images pods = .ok none ↔ ∀ pod ∈ pods, ¬ pod.Passes images) ∧
    (∀ pod, newest images pods = .ok (some pod) ↔ IsNewest images pod pods) ∧
    newest images (pods.filter (·.Passes images)) = newest images pods ∧
    (∀ shuffled, pods.Perm shuffled → CreatedApart images pods →
      newest images shuffled = newest images pods) ∧
    ∀ first second : Pod, Instant.Precise first.bornAt.micros →
      Instant.Precise second.bornAt.micros →
      (first.created.le second.created = true ↔ first.bornAt.micros ≤ second.bornAt.micros) := by
  refine ⟨?_, newest_eq_none_iff images hpods, fun pod => newest_eq_some_iff images hpods,
    newest_filter images hpods, fun shuffled => newest_perm images hpods, ?_⟩
  · rcases newest_cases images hpods with ⟨pod, hscan, -⟩ | ⟨hscan, -⟩
    · exact ⟨some pod, hscan⟩
    · exact ⟨none, hscan⟩
  · intro first second hfirst hsecond
    rw [created_eq_secondsOf, created_eq_secondsOf]
    exact hfirst.secondsOf_le_iff hsecond

/-- The time of one pod is missing, another pod is older than the epoch, and the newest one has
another image. In every order of the list the first of them is chosen. -/
theorem newest_law_undated :
    let pod (name image : String) (created : Option Instant) : Pod :=
      { metadata := some ⟨some name, some "default", [], created, false⟩
        spec := some ⟨[⟨some "main", some image, false, false⟩], 0⟩
        status := none }
    let old := pod "old" "app:v1" (some ⟨-1⟩)
    let other := pod "other" "db:v1" (some ⟨1710072000000000⟩)
    let undated := pod "undated" "app:v1" none
    let pods := [old, other, undated]
    (∀ pod ∈ pods, pod.metadata.isSome ∧ pod.spec.isSome) ∧
      newest ["app:v1"] pods = .ok (some undated) ∧
      pods.Perm pods.reverse ∧ CreatedApart ["app:v1"] pods ∧
      newest ["app:v1"] pods.reverse = .ok (some undated) ∧
      Instant.Precise old.bornAt.micros ∧ Instant.Precise undated.bornAt.micros ∧
      old.created.le undated.created = true := by
  intro pod old other undated pods
  have hpods : ∀ pod ∈ pods, pod.metadata.isSome ∧ pod.spec.isSome := by decide +kernel
  obtain ⟨-, -, hsome, -, hperm, hnear⟩ := newest_law ["app:v1"] hpods
  have hnewest : IsNewest ["app:v1"] undated pods := by
    refine ⟨[old, other], [], rfl, by decide +kernel, ?_, by simp⟩
    decide +kernel
  have hreversed : pods.Perm pods.reverse := (List.reverse_perm pods).symm
  have hapart : CreatedApart ["app:v1"] pods := by
    unfold CreatedApart
    decide +kernel
  have hscan := (hsome undated).mpr hnewest
  refine ⟨hpods, hscan, hreversed, hapart, (hperm _ hreversed hapart).trans hscan, by decide,
    by decide, ?_⟩
  exact (hnear old undated (by decide) (by decide)).mpr (by decide)

end Discovery

end PodReach
