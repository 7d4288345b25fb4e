import PodReach.Discovery.Collect
import PodReach.Proofs.Number.Order

/-!
# The newest pod of a list

The scan for the newest pod keeps one candidate. On pods whose metadata and specification are
present it finds the first maximum: of the pods that pass the image filter, one that is created
strictly later than all before it and no earlier than all after it.
-/

namespace PodReach

namespace Pod

/-- A pod of which everything that a search looks at is present. -/
structure Complete (pod : Pod) : Prop where
  metadata : pod.metadata.isSome
  spec : pod.spec.isSome
  status : pod.status.isSome

/-- A complete pod has a status. -/
theorem Complete.status?_isSome {pod : Pod} (h : pod.Complete) :
    ∃ status, pod.status? = some status := by
  obtain ⟨metadata, hmetadata⟩ := Option.isSome_iff_exists.mp h.metadata
  obtain ⟨status, hstatus⟩ := Option.isSome_iff_exists.mp h.status
  exact ⟨statusOf metadata pod.spec status, by simp only [status?, hmetadata, hstatus]⟩

/-- Complete pods have what it takes to find the newest. -/
theorem forall_declared {pods : List Pod} (h : ∀ pod ∈ pods, pod.Complete) :
    ∀ pod ∈ pods, pod.metadata.isSome ∧ pod.spec.isSome :=
  fun pod hpod => ⟨(h pod hpod).metadata, (h pod hpod).spec⟩

/-- The creation time of a pod in seconds. -/
def created (pod : Pod) : Double :=
  (pod.metadata.map createdAt).getD (.finite 0)

/-- Whether a pod passes an image filter: there is none, or one of its containers has an image
of the list. -/
def Passes (images : List String) (pod : Pod) : Prop :=
  images = [] ∨ ∃ spec c image, pod.spec = some spec ∧ c ∈ spec.containers ∧
    c.image = some image ∧ image ∈ images

/-- The first of the latest created pods among those of a list that pass an image filter. -/
def IsNewest (images : List String) (pod : Pod) (pods : List Pod) : Prop :=
  ∃ before after, pods = before ++ pod :: after ∧ pod.Passes images ∧
    (∀ other ∈ before, other.Passes images → other.created.lt pod.created = true) ∧
    ∀ other ∈ after, other.Passes images → other.created.le pod.created = true

theorem created_ne_nan (pod : Pod) : pod.created ≠ .nan := by
  have hat : ∀ metadata, createdAt metadata ≠ .nan := by
    intro metadata
    unfold createdAt
    split
    · exact Double.round_ne_nan _
    · exact nofun
  unfold created
  cases pod.metadata with
  | none => exact nofun
  | some metadata => exact hat metadata

theorem created_le_iff (first second : Pod) :
    first.created.le second.created = true ↔ first.created.rank ≤ second.created.rank :=
  Double.le_iff_rank first.created_ne_nan second.created_ne_nan

theorem created_lt_iff (first second : Pod) :
    first.created.lt second.created = true ↔ first.created.rank < second.created.rank :=
  Double.lt_iff_rank first.created_ne_nan second.created_ne_nan

namespace IsNewest

variable {images : List String} {pod other best : Pod} {pods : List Pod}

theorem mem (h : IsNewest images pod pods) : pod ∈ pods := by
  obtain ⟨before, after, rfl, -, -, -⟩ := h
  simp

theorem passes (h : IsNewest images pod pods) : pod.Passes images := by
  obtain ⟨before, after, rfl, hpasses, -, -⟩ := h
  exact hpasses

/-- No pod that passes is created later. -/
theorem rank_le (h : IsNewest images pod pods) (hother : other ∈ pods)
    (hpasses : other.Passes images) : other.created.rank ≤ pod.created.rank := by
  obtain ⟨before, after, rfl, -, hbefore, hafter⟩ := h
  rcases List.mem_append.mp hother with hmem | hmem
  · exact ((created_lt_iff _ _).mp (hbefore other hmem hpasses)).le
  · rcases List.mem_cons.mp hmem with rfl | hmem
    · exact le_rfl
    · exact (created_le_iff _ _).mp (hafter other hmem hpasses)

/-- A pod that is not as new as the newest may stand before it. -/
theorem cons (h : IsNewest images pod pods)
    (hother : other.Passes images → other.created.rank < pod.created.rank) :
    IsNewest images pod (other :: pods) := by
  obtain ⟨before, after, rfl, hpasses, hbefore, hafter⟩ := h
  refine ⟨other :: before, after, rfl, hpasses, ?_, hafter⟩
  intro earlier hearlier hearlierPasses
  rcases List.mem_cons.mp hearlier with rfl | hmem
  · exact (created_lt_iff _ _).mpr (hother hearlierPasses)
  · exact hbefore earlier hmem hearlierPasses

/-- A pod that is not newer than the first candidate may stand right behind it. -/
theorem insert (h : IsNewest images pod (best :: pods)) (hbest : best.Passes images)
    (hother : other.Passes images → other.created.rank ≤ best.created.rank) :
    IsNewest images pod (best :: other :: pods) := by
  obtain ⟨before, after, hsplit, hpasses, hbefore, hafter⟩ := h
  cases before with
  | nil =>
      obtain ⟨rfl, rfl⟩ := List.cons.inj hsplit
      refine ⟨[], other :: pods, rfl, hpasses, by simp, ?_⟩
      intro later hlater hlaterPasses
      rcases List.mem_cons.mp hlater with rfl | hmem
      · exact (created_le_iff _ _).mpr (hother hlaterPasses)
      · exact hafter later hmem hlaterPasses
  | cons first before =>
      obtain ⟨rfl, rfl⟩ := List.cons.inj hsplit
      have hfirst := hbefore best (by simp) hbest
      refine ⟨best :: other :: before, after, rfl, hpasses, ?_, hafter⟩
      intro earlier hearlier hearlierPasses
      rcases List.mem_cons.mp hearlier with rfl | hmem
      · exact hfirst
      · rcases List.mem_cons.mp hmem with rfl | hmem
        · exact (created_lt_iff _ _).mpr
            (lt_of_le_of_lt (hother hearlierPasses) ((created_lt_iff _ _).mp hfirst))
        · exact hbefore earlier (by simp [hmem]) hearlierPasses

/-- There is only one newest pod. -/
theorem unique (h : IsNewest images pod pods) (hother : IsNewest images other pods) :
    pod = other := by
  have hle := hother.rank_le h.mem h.passes
  have hge := h.rank_le hother.mem hother.passes
  obtain ⟨before, after, hsplit, hpasses, hbefore, -⟩ := h
  obtain ⟨before', after', hsplit', hpasses', hbefore', -⟩ := hother
  -- of two different places the later one would have to be created strictly later
  rcases List.append_eq_append_iff.mp (hsplit.symm.trans hsplit') with
    ⟨middle, hbetween, hrest⟩ | ⟨middle, hbetween, hrest⟩
  · cases middle with
    | nil => exact (List.cons.inj hrest).1
    | cons first middle =>
        obtain ⟨rfl, -⟩ := List.cons.inj hrest
        have hlt := (created_lt_iff _ _).mp (hbefore' pod (by simp [hbetween]) hpasses)
        exact absurd hlt (not_lt.mpr hge)
  · cases middle with
    | nil => exact (List.cons.inj hrest).1.symm
    | cons first middle =>
        obtain ⟨rfl, -⟩ := List.cons.inj hrest
        have hlt := (created_lt_iff _ _).mp (hbefore other (by simp [hbetween]) hpasses')
        exact absurd hlt (not_lt.mpr hle)

end IsNewest

/-- An image is accepted by a non-empty list if it is one of it. -/
theorem imageAccepted_iff {images : List String} (himages : images ≠ [])
    (image : Option String) :
    imageAccepted images image = true ↔ ∃ i, image = some i ∧ i ∈ images := by
  cases image <;> simp [imageAccepted, himages]

/-- For a non-empty list of images the filter looks at the containers. -/
theorem passes_iff_hasImage {images : List String} {pod : Pod} {spec : PodSpec}
    (himages : images ≠ []) (hspec : pod.spec = some spec) :
    pod.Passes images ↔ hasImage images spec = true := by
  have haccepted := imageAccepted_iff himages
  unfold Passes hasImage
  rw [List.any_eq_true]
  constructor
  · rintro (hnone | ⟨spec', c, image, hspec', hc, himage, hmem⟩)
    · exact absurd hnone himages
    · obtain rfl : spec = spec' := Option.some.inj (hspec.symm.trans hspec')
      exact ⟨c, hc, (haccepted c.image).mpr ⟨image, himage, hmem⟩⟩
  · rintro ⟨c, hc, himage⟩
    obtain ⟨image, himage, hmem⟩ := (haccepted c.image).mp himage
    exact Or.inr ⟨spec, c, image, hspec, hc, himage, hmem⟩

end Pod

namespace Discovery

open Pod

variable (images : List String)

/-- The candidate that the scan keeps is replaced by a pod that passes and is newer. -/
theorem replaces_some {best pod : Pod} (hbest : best.metadata.isSome)
    (hmetadata : pod.metadata.isSome) (hspec : pod.spec.isSome) :
    (pod.Passes images ∧ best.created.rank < pod.created.rank ∧
        replaces images (some best) pod = .ok true) ∨
      ((pod.Passes images → pod.created.rank ≤ best.created.rank) ∧
        replaces images (some best) pod = .ok false) := by
  obtain ⟨bestMetadata, hbest⟩ := Option.isSome_iff_exists.mp hbest
  obtain ⟨metadata, hmetadata⟩ := Option.isSome_iff_exists.mp hmetadata
  obtain ⟨spec, hspec⟩ := Option.isSome_iff_exists.mp hspec
  have hcompare : replaces images (some best) pod =
      if pod.created.le best.created then .ok false
      else if images.isEmpty then .ok true
      else .ok (hasImage images spec) := by
    simp only [replaces, hbest, hmetadata, hspec, part, created, Option.map_some,
      Option.getD_some, bind, Except.bind]
    cases (createdAt metadata).le (createdAt bestMetadata) <;> rfl
  rw [hcompare]
  by_cases hle : pod.created.le best.created = true
  · exact Or.inr ⟨fun _ => (created_le_iff pod best).mp hle, if_pos hle⟩
  · have hnewer : best.created.rank < pod.created.rank :=
      not_le.mp (fun h => hle ((created_le_iff pod best).mpr h))
    rw [if_neg hle]
    by_cases himages : images = []
    · exact Or.inl ⟨Or.inl himages, hnewer, by simp [himages]⟩
    · have hpasses := passes_iff_hasImage himages hspec
      rw [if_neg (by simpa using himages)]
      cases himage : hasImage images spec with
      | true => exact Or.inl ⟨hpasses.mpr himage, hnewer, rfl⟩
      | false => exact Or.inr ⟨fun h => by simp [hpasses.mp h] at himage, rfl⟩

/-- Without a candidate a pod becomes one if it passes. -/
theorem replaces_none {pod : Pod} (hspec : pod.spec.isSome) :
    (pod.Passes images ∧ replaces images none pod = .ok true) ∨
      (¬ pod.Passes images ∧ replaces images none pod = .ok false) := by
  obtain ⟨spec, hspec⟩ := Option.isSome_iff_exists.mp hspec
  by_cases himages : images = []
  · subst himages
    exact Or.inl ⟨Or.inl rfl, rfl⟩
  · have hpasses := passes_iff_hasImage himages hspec
    have hlook : replaces images none pod = .ok (hasImage images spec) := by
      have hempty : images.isEmpty = false := by simpa using himages
      simp only [replaces, hempty, hspec, part]
      rfl
    rw [hlook]
    cases himage : hasImage images spec with
    | true => exact Or.inl ⟨hpasses.mpr himage, rfl⟩
    | false => exact Or.inr ⟨fun h => by simp [hpasses.mp h] at himage, rfl⟩

/-- The invariant of the scan: with a candidate that passes it ends with the newest pod of the
candidate and the rest. -/
theorem newestFrom_some {pods : List Pod} {best : Pod}
    (hpods : ∀ pod ∈ best :: pods, pod.metadata.isSome ∧ pod.spec.isSome)
    (hbest : best.Passes images) :
    ∃ pod, newestFrom images (some best) pods = .ok (some pod) ∧
      IsNewest images pod (best :: pods) := by
  induction pods generalizing best with
  | nil => exact ⟨best, rfl, [], [], rfl, hbest, by simp, by simp⟩
  | cons next pods ih =>
      obtain ⟨hfirst, hrest⟩ := List.forall_mem_cons.mp hpods
      obtain ⟨hnext, hpods'⟩ := List.forall_mem_cons.mp hrest
      rcases replaces_some images hfirst.1 hnext.1 hnext.2 with
        ⟨hpasses, hnewer, hreplaces⟩ | ⟨hpasses, hreplaces⟩
      · obtain ⟨pod, hscan, hnewest⟩ := ih hrest hpasses
        refine ⟨pod, ?_, hnewest.cons fun _ => ?_⟩
        · rw [newestFrom, hreplaces]
          exact hscan
        · exact lt_of_lt_of_le hnewer (hnewest.rank_le (by simp) hpasses)
      · obtain ⟨pod, hscan, hnewest⟩ := ih (List.forall_mem_cons.mpr ⟨hfirst, hpods'⟩) hbest
        refine ⟨pod, ?_, hnewest.insert hbest hpasses⟩
        rw [newestFrom, hreplaces]
        exact hscan

/-- On pods that can be looked at the scan finds the newest one that passes, or that none does. -/
theorem newest_cases {pods : List Pod}
    (hpods : ∀ pod ∈ pods, pod.metadata.isSome ∧ pod.spec.isSome) :
    (∃ pod, newest images pods = .ok (some pod) ∧ IsNewest images pod pods) ∨
      (newest images pods = .ok none ∧ ∀ pod ∈ pods, ¬ pod.Passes images) := by
  unfold newest
  induction pods with
  | nil => exact Or.inr ⟨rfl, by simp⟩
  | cons next pods ih =>
      obtain ⟨hnext, hrest⟩ := List.forall_mem_cons.mp hpods
      rcases replaces_none images hnext.2 with
        ⟨hpasses, hreplaces⟩ | ⟨hpasses, hreplaces⟩
      · obtain ⟨pod, hscan, hnewest⟩ := newestFrom_some images hpods hpasses
        refine Or.inl ⟨pod, ?_, hnewest⟩
        rw [newestFrom, hreplaces]
        exact hscan
      · have hskip : newestFrom images none (next :: pods) = newestFrom images none pods := by
          rw [newestFrom, hreplaces]
          rfl
        rw [hskip]
        rcases ih hrest with ⟨pod, hscan, hnewest⟩ | ⟨hscan, hnone⟩
        · exact Or.inl ⟨pod, hscan, hnewest.cons fun h => absurd h hpasses⟩
        · refine Or.inr ⟨hscan, ?_⟩
          intro pod hpod
          rcases List.mem_cons.mp hpod with rfl | hmem
          · exact hpasses
          · exact hnone pod hmem

/-- The pod that the scan finds is the newest. -/
theorem newest_eq_some_iff {pods : List Pod} {pod : Pod}
    (hpods : ∀ pod ∈ pods, pod.metadata.isSome ∧ pod.spec.isSome) :
    newest images pods = .ok (some pod) ↔ IsNewest images pod pods := by
  rcases newest_cases images hpods with ⟨found, hscan, hnewest⟩ | ⟨hscan, hnone⟩
  · rw [hscan]
    constructor
    · rintro ⟨⟩
      exact hnewest
    · intro h
      rw [hnewest.unique h]
  · rw [hscan]
    constructor
    · rintro ⟨⟩
    · intro h
      exact absurd h.passes (hnone pod h.mem)

/-- The scan finds no pod if and only if none passes. -/
theorem newest_eq_none_iff {pods : List Pod}
    (hpods : ∀ pod ∈ pods, pod.metadata.isSome ∧ pod.spec.isSome) :
    newest images pods = .ok none ↔ ∀ pod ∈ pods, ¬ pod.Passes images := by
  rcases newest_cases images hpods with ⟨found, hscan, hnewest⟩ | ⟨hscan, hnone⟩
  · rw [hscan]
    constructor
    · rintro ⟨⟩
    · intro h
      exact absurd hnewest.passes (h found hnewest.mem)
  · exact ⟨fun _ => hnone, fun _ => hscan⟩

/-- A pod becomes the candidate of the scan only if it passes. -/
theorem passes_of_replaces {selected : Option Pod} {pod : Pod}
    (h : replaces images selected pod = .ok true) : pod.Passes images := by
  by_cases himages : images = []
  · exact Or.inl himages
  · have hnonempty : images.isEmpty = false := by simpa using himages
    cases hspec : pod.spec with
    | none =>
        simp only [replaces, hspec, hnonempty, part, bind, Except.bind] at h
        grind
    | some spec =>
        refine (passes_iff_hasImage himages hspec).mpr ?_
        simp only [replaces, hspec, hnonempty, part, bind, Except.bind] at h
        grind

/-- The candidate that the scan ends with is the one it began with, or a pod of the list that
passes. -/
theorem newestFrom_eq_some {pods : List Pod} {selected : Option Pod}
    {pod : Pod} (h : newestFrom images selected pods = .ok (some pod)) :
    selected = some pod ∨ pod ∈ pods ∧ pod.Passes images := by
  induction pods generalizing selected with
  | nil =>
      cases h
      exact Or.inl rfl
  | cons next pods ih =>
      rw [newestFrom] at h
      cases hreplaces : replaces images selected next with
      | error halt =>
          rw [hreplaces] at h
          cases h
      | ok replaced =>
          rw [hreplaces] at h
          cases replaced with
          | false =>
              rcases ih h with hselected | ⟨hmem, hpasses⟩
              · exact Or.inl hselected
              · exact Or.inr ⟨List.mem_cons_of_mem _ hmem, hpasses⟩
          | true =>
              rcases ih h with hnext | ⟨hmem, hpasses⟩
              · obtain rfl := Option.some.inj hnext
                exact Or.inr ⟨List.mem_cons_self, passes_of_replaces images hreplaces⟩
              · exact Or.inr ⟨List.mem_cons_of_mem _ hmem, hpasses⟩

/-- The only thing that can go wrong in a comparison is that a part is missing. -/
theorem replaces_error {selected : Option Pod} {pod : Pod} {halt : Halt}
    (h : replaces images selected pod = .error halt) : halt = .mistake .noSuchPart := by
  cases hspec : pod.spec <;> cases selected with
  | none =>
      simp only [replaces, hspec, part, bind, Except.bind] at h
      grind
  | some best =>
      cases hmetadata : pod.metadata <;> cases hbest : best.metadata <;>
        simp only [replaces, hspec, hmetadata, hbest, part, bind, Except.bind] at h <;> grind

/-- The only thing that can go wrong in a scan is that a part is missing. -/
theorem newestFrom_error {pods : List Pod} {selected : Option Pod} {halt : Halt}
    (h : newestFrom images selected pods = .error halt) : halt = .mistake .noSuchPart := by
  induction pods generalizing selected with
  | nil => cases h
  | cons next pods ih =>
      rw [newestFrom] at h
      cases hreplaces : replaces images selected next with
      | error missing =>
          rw [hreplaces] at h
          cases h
          exact replaces_error images hreplaces
      | ok replaced =>
          rw [hreplaces] at h
          cases replaced with
          | true => exact ih h
          | false => exact ih h

end Discovery

end PodReach
