import PodReach.Discovery.Resolve
import PodReach.Proofs.Discovery.NewestSearch
import PodReach.Proofs.Pod.Status

/-!
# From a selector to a pod and a container

A selector is resolved in two steps that know nothing of each other: a pod is read or searched
for, then one of its containers is chosen. This module says what each step guarantees, and what
follows for both together. That a searched pod runs says more about it than it seems: a pod that
is being deleted, or whose init containers have not all succeeded, never shows that it runs. And
that its image is right is known before a container is chosen, because the search let it pass.
-/

namespace PodReach

/-- The first element of a list with a property. -/
def IsFirst {α : Type} (p : α → Prop) (a : α) (l : List α) : Prop :=
  ∃ before after, l = before ++ a :: after ∧ p a ∧ ∀ other ∈ before, ¬ p other

theorem IsFirst.mem {α : Type} {p : α → Prop} {a : α} {l : List α} (h : IsFirst p a l) :
    a ∈ l := by
  obtain ⟨before, after, rfl, -, -⟩ := h
  simp

/-- A search from the front finds the first element with a property. -/
theorem isFirst_of_find? {α : Type} {p : α → Prop} {test : α → Bool}
    (htest : ∀ a, test a = true ↔ p a) {a : α} {l : List α} (h : l.find? test = some a) :
    IsFirst p a l := by
  obtain ⟨ha, before, after, rfl, hbefore⟩ := List.find?_eq_some_iff_append.mp h
  refine ⟨before, after, rfl, (htest a).mp ha, ?_⟩
  intro other hother hp
  have hnot := hbefore other hother
  rw [(htest other).mpr hp] at hnot
  cases hnot

namespace Pod

/-! ## Pods that run -/

/-- What the status of an init container says begins with a mark of its own. -/
theorem not_initSays_running {s : ContainerStatus} {index total : Nat} :
    ¬ s.InitSays index total "Running" := by
  have hmark : ∀ rest, "Init:" ++ rest ≠ "Running" := by
    intro rest h
    have hchars := congrArg String.toList h
    rw [String.toList_append] at hchars
    exact absurd (List.cons.inj hchars).1 (by decide)
  intro h
  generalize htext : "Running" = text at h
  cases h with
  | ended ended describes => exact hmark _ htext.symm
  | waiting unended waits reason_ne => exact hmark _ htext.symm
  | progress unended unreasoned =>
      rw [String.append_assoc, String.append_assoc] at htext
      exact hmark _ htext.symm

/-- A pod that shows that it runs is not being deleted, and its init containers have
succeeded. -/
theorem live_of_running {pod : Pod} (h : pod.status? = some "Running") :
    ∃ metadata status, pod.metadata = some metadata ∧ pod.status = some status ∧
      metadata.deleting = false ∧ ∀ s ∈ status.initContainers, s.Succeeded := by
  unfold status? at h
  split at h
  · next metadata status hmetadata hstatus =>
    refine ⟨metadata, status, hmetadata, hstatus, ?_⟩
    have hshows := shows_statusOf metadata pod.spec status
    rw [Option.some.inj h] at hshows
    generalize htext : "Running" = text at hshows
    cases hshows with
    | lost => exact absurd htext (by decide)
    | terminating => exact absurd htext (by decide)
    | init live split done undone said =>
        subst htext
        exact absurd said not_initSays_running
    | running live done => exact ⟨live, done⟩
    | main live done => exact ⟨live, done⟩
  · cases h

end Pod

namespace Discovery

open Run

/-! ## The pod of a search -/

namespace Search

variable {s : Search} {grace start : Double} {w w' : World} {pod : Pod}

/-- A search found a pod with its `k`-th question: the pod is in the answer to it, passes the
image filter and runs. -/
structure FindsAt (s : Search) (k : Nat) (pods : List Pod) (pod : Pod) (w w' : World) :
    Prop where
  asks : 1 ≤ k
  took : s.Took k ((2 * k - 1) * s.pauseSeconds) w w'
  answer : s.answer w k = .ok pods
  mem : pod ∈ pods
  passes : pod.Passes s.images
  running : pod.status? = some "Running"

/-- A pod that is judged to be the one runs and is in the list. -/
theorem judgeNewest_eq_ok {late : Bool} {pods : List Pod}
    (h : s.judgeNewest late pods = some (.ok pod)) :
    pod ∈ pods ∧ pod.Passes s.images ∧ pod.status? = some "Running" := by
  unfold judgeNewest at h
  cases hscan : newest s.images pods with
  | error halt =>
      rw [hscan] at h
      cases h
  | ok found =>
      rw [hscan] at h
      cases found with
      | none =>
          dsimp only at h
          split_ifs at h
          cases h
      | some best =>
          cases hstatus : best.status? with
          | none =>
              simp only [hstatus] at h
              cases h
          | some status =>
              simp only [hstatus] at h
              split_ifs at h with hrunning
              · cases h
                obtain ⟨hmem, hpasses⟩ := (newestFrom_eq_some _ hscan).resolve_left nofun
                exact ⟨hmem, hpasses, by rw [hstatus, beq_iff_eq.mp hrunning]⟩
              · cases h

/-- A question that settles on a pod finds it. -/
theorem findsAt_one (h : s.newestVerdict grace start w = some (.ok pod))
    (htook : s.Took 1 s.pauseSeconds w w') : ∃ pods, s.FindsAt 1 pods pod w w' := by
  unfold newestVerdict at h
  cases hanswer : s.answer w 1 with
  | error fault =>
      rw [hanswer] at h
      cases h
  | ok pods =>
      rw [hanswer] at h
      obtain ⟨hmem, hpasses, hrunning⟩ := judgeNewest_eq_ok h
      refine ⟨pods, le_rfl, ?_, hanswer, hmem, hpasses, hrunning⟩
      convert htook using 1
      push_cast
      ring

/-- A round that settles nothing comes before the others. -/
theorem FindsAt.succ {k : Nat} {pods : List Pod} (h : s.FindsAt k pods pod (s.rested w) w') :
    s.FindsAt (k + 1) pods pod w w' := by
  refine ⟨by omega, ?_, ?_, h.mem, h.passes, h.running⟩
  · have htook := (s.took_rested w).trans h.took
    rw [Nat.add_comm] at htook
    convert htook using 1
    push_cast
    ring
  · rw [← h.answer]
    exact (s.answer_rested w h.asks).symm

/-- A search that ends with a pod found it with one of its questions. -/
theorem newestRunning_eq_ok {rounds : Nat} {budget : Double}
    (h : s.newestRunning grace start rounds budget w = (.ok pod, w')) :
    ∃ k pods, s.FindsAt k pods pod w w' := by
  induction rounds generalizing budget w with
  | zero => cases h
  | succ rounds ih =>
      cases hverdict : s.newestVerdict grace start w with
      | some outcome =>
          obtain ⟨w₁, hrun, htook⟩ := s.newestRunning_of_verdict rounds budget hverdict
          rw [hrun] at h
          cases h
          exact ⟨1, findsAt_one hverdict htook⟩
      | none =>
          rw [s.newestRunning_of_open rounds budget hverdict] at h
          split_ifs at h
          · cases h
          · obtain ⟨k, pods, hfinds⟩ := ih h
            exact ⟨k + 1, pods, hfinds.succ⟩

/-- A search whose budget cannot pay for a round succeeds only with its first one. -/
theorem afterOneRound_eq_ok {α : Type} {round : Run (Option α)} {mistake : Mistake} {a : α}
    (h : afterOneRound s round mistake w = (.ok a, w')) : round w = (.ok (some a), w') := by
  unfold afterOneRound at h
  obtain ⟨found, w₁, hround, h⟩ := bind_eq_ok h
  cases found with
  | some b =>
      cases h
      exact hround
  | none =>
      obtain ⟨_, w₂, -, h⟩ := bind_eq_ok h
      cases h

/-- The search for the newest pod found the pod with one of its questions. -/
theorem newestRunningPod_eq_ok {maxWait : Yaml}
    (h : newestRunningPod s maxWait grace w = (.ok pod, w')) :
    ∃ k pods, s.FindsAt k pods pod w w' := by
  have hone : ∀ mistake, afterOneRound s (s.newestRound grace w.clock) mistake w = (.ok pod, w') →
      ∃ k pods, s.FindsAt k pods pod w w' := by
    intro mistake hrun
    obtain ⟨w₁, hround, htook, -⟩ := s.newestRound_eq grace w.clock w
    rw [afterOneRound_eq_ok hrun] at hround
    obtain ⟨houtcome, rfl⟩ := Prod.mk.inj hround
    exact ⟨1, findsAt_one (roundOutcome_eq_ok houtcome.symm) htook⟩
  unfold newestRunningPod at h
  rw [bind_of_ok (Clock.read_apply w)] at h
  cases hbudget : Budget.ofSetting maxWait with
  | seconds budget =>
      rw [hbudget] at h
      exact newestRunning_eq_ok h
  | vast negative =>
      rw [hbudget] at h
      exact hone _ h
  | none =>
      rw [hbudget] at h
      exact hone _ h

end Search

/-! ## The container of a pod -/

/-- A picker that picks nothing or one of the containers that it is shown. -/
def Picker.Honest (pick : Picker) : Prop :=
  ∀ containers w picked w', pick containers w = (.ok (some picked), w') → picked ∈ containers

/-- A selector does not say which of the containers it means: it has no container name, there are
several containers, and none of them has a selected image. -/
structure Undecided (selector : Selector) (spec : PodSpec) : Prop where
  unnamed : Text.nonempty selector.containerName = none
  several : 1 < spec.containers.length
  unselected : ∀ c ∈ spec.containers, ∀ image, c.image = some image → image ∉ selector.images

variable {selector : Selector} {picker : Option Picker} {pod : Pod} {spec : PodSpec}
  {container : Container} {w w' : World}

theorem hasSelectedImage_iff (images : List String) (c : Container) :
    hasSelectedImage images c = true ↔ ∃ image, c.image = some image ∧ image ∈ images := by
  unfold hasSelectedImage
  cases c.image <;> simp

/-- A container is chosen as the selector says, and only if it is undecided someone is asked. -/
inductive Chosen (selector : Selector) (picker : Option Picker) (spec : PodSpec)
    (container : Container) (w w' : World) : Prop
  | named {name : String} (name_eq : Text.nonempty selector.containerName = some name)
      (first : IsFirst (fun c => c.name = some name) container spec.containers) (same : w' = w)
  | only (unnamed : Text.nonempty selector.containerName = none)
      (single : spec.containers = [container]) (same : w' = w)
  | selected (unnamed : Text.nonempty selector.containerName = none)
      (first : IsFirst (fun c => ∃ image, c.image = some image ∧ image ∈ selector.images)
        container spec.containers) (same : w' = w)
  | unasked (undecided : Undecided selector spec) (silent : picker = none)
      (first : spec.containers.head? = some container) (same : w' = w)
  | asked {pick : Picker} {picked : Option Container} (undecided : Undecided selector spec)
      (picker_eq : picker = some pick) (answer : pick spec.containers w = (.ok picked, w'))
      (result : picked = some container ∨
        picked = none ∧ spec.containers.head? = some container)

/-- A search for a selected image that fails leaves the selector undecided. -/
theorem undecided_of_find? {first : Container} {rest : List Container}
    (hspec : spec.containers = first :: rest)
    (hunnamed : Text.nonempty selector.containerName = none) (hseveral : rest ≠ [])
    (hfind : (first :: rest).find? (hasSelectedImage selector.images) = none) :
    Undecided selector spec := by
  refine ⟨hunnamed, ?_, ?_⟩
  · rw [hspec, List.length_cons]
    exact Nat.succ_lt_succ (List.length_pos_iff.mpr hseveral)
  · intro c hc image himage hmem
    rw [hspec] at hc
    exact List.find?_eq_none.mp hfind c hc
      ((hasSelectedImage_iff _ c).mpr ⟨image, himage, hmem⟩)

/-- A choice among several containers without a name was made as the selector says. -/
theorem preferredContainer_eq_ok {first : Container} {rest : List Container}
    (hspec : spec.containers = first :: rest)
    (hunnamed : Text.nonempty selector.containerName = none) (hseveral : rest ≠ [])
    (h : preferredContainer selector.images picker first (first :: rest) w =
      (.ok container, w')) : Chosen selector picker spec container w w' := by
  unfold preferredContainer at h
  cases hfind : (first :: rest).find? (hasSelectedImage selector.images) with
  | some c =>
      rw [hfind] at h
      cases h
      refine .selected hunnamed ?_ rfl
      rw [hspec]
      exact isFirst_of_find? (hasSelectedImage_iff selector.images) hfind
  | none =>
      have hundecided := undecided_of_find? hspec hunnamed hseveral hfind
      rw [hfind] at h
      cases picker with
      | none =>
          cases h
          exact .unasked hundecided rfl (by rw [hspec]; rfl) rfl
      | some pick =>
          obtain ⟨picked, w₁, hpick, h⟩ := bind_eq_ok h
          cases h
          refine .asked hundecided rfl (hspec ▸ hpick) ?_
          cases picked with
          | none => exact Or.inr ⟨rfl, by rw [hspec]; rfl⟩
          | some c => exact Or.inl rfl

/-- A choice that succeeds was made as the selector says. -/
theorem selectContainer_eq_ok (h : selectContainer pod selector picker w = (.ok container, w')) :
    ∃ spec, pod.spec = some spec ∧ Chosen selector picker spec container w w' := by
  unfold selectContainer at h
  obtain ⟨spec, w₁, hneed, hchoice⟩ := bind_eq_ok h
  obtain ⟨hspec, rfl⟩ := need_eq_ok hneed
  refine ⟨spec, hspec, ?_⟩
  cases hcontainers : spec.containers with
  | nil =>
      rw [hcontainers] at hchoice
      obtain ⟨_, _, -, hhalt⟩ := bind_eq_ok hchoice
      cases hhalt
  | cons first rest =>
      rw [hcontainers] at hchoice
      dsimp only at hchoice
      cases hname : Text.nonempty selector.containerName with
      | some name =>
          rw [hname] at hchoice
          dsimp only at hchoice
          cases hfind : (first :: rest).find? fun c => c.name == some name with
          | some c =>
              rw [hfind] at hchoice
              cases hchoice
              refine .named hname ?_ rfl
              rw [hcontainers]
              exact isFirst_of_find? (fun c => beq_iff_eq) hfind
          | none =>
              rw [hfind] at hchoice
              obtain ⟨_, _, -, hhalt⟩ := bind_eq_ok hchoice
              cases hhalt
      | none =>
          rw [hname] at hchoice
          dsimp only at hchoice
          cases rest with
          | nil =>
              cases hchoice
              exact .only hname hcontainers rfl
          | cons second rest =>
              exact preferredContainer_eq_ok hcontainers hname (List.cons_ne_nil _ _) hchoice

/-- Without a specification there is no container to choose. -/
theorem selectContainer_of_missing (hspec : pod.spec = none) (other : Option Picker) :
    selectContainer pod selector other w = selectContainer pod selector picker w := by
  unfold selectContainer
  rw [bind_of_error (hspec ▸ need_none w), bind_of_error (hspec ▸ need_none w)]

namespace Chosen

/-- The container that is chosen is one of the pod, if no picker makes one up. -/
theorem mem (h : Chosen selector picker spec container w w')
    (hhonest : ∀ pick, picker = some pick → pick.Honest) : container ∈ spec.containers := by
  cases h with
  | named _ first => exact first.mem
  | only _ single => rw [single]; exact List.mem_singleton_self _
  | selected _ first => exact first.mem
  | unasked _ _ first => exact List.mem_of_head? first
  | asked _ picker_eq answer result =>
      rcases result with rfl | ⟨-, hfirst⟩
      · exact hhonest _ picker_eq _ _ _ _ answer
      · exact List.mem_of_head? hfirst

/-- Nothing happens to the world unless a picker is asked. -/
theorem same_or_asked (h : Chosen selector picker spec container w w') :
    w' = w ∨ Undecided selector spec ∧ ∃ pick picked, picker = some pick ∧
      pick spec.containers w = (.ok picked, w') := by
  cases h with
  | named _ _ same => exact Or.inl same
  | only _ _ same => exact Or.inl same
  | selected _ _ same => exact Or.inl same
  | unasked _ _ _ same => exact Or.inl same
  | asked undecided picker_eq answer _ => exact Or.inr ⟨undecided, _, _, picker_eq, answer⟩

/-- A container name decides. -/
theorem first_of_named (h : Chosen selector picker spec container w w') {name : String}
    (hname : Text.nonempty selector.containerName = some name) :
    IsFirst (fun c => c.name = some name) container spec.containers := by
  cases h with
  | named name_eq first =>
      obtain rfl := Option.some.inj (name_eq.symm.trans hname)
      exact first
  | only unnamed => cases unnamed.symm.trans hname
  | selected unnamed => cases unnamed.symm.trans hname
  | unasked undecided => cases undecided.unnamed.symm.trans hname
  | asked undecided => cases undecided.unnamed.symm.trans hname

/-- Without one a selected image decides, if the pod has it. -/
theorem first_of_selected (h : Chosen selector picker spec container w w')
    (hunnamed : Text.nonempty selector.containerName = none)
    (himage : ∃ c ∈ spec.containers, ∃ image, c.image = some image ∧ image ∈ selector.images) :
    IsFirst (fun c => ∃ image, c.image = some image ∧ image ∈ selector.images) container
      spec.containers := by
  obtain ⟨c, hc, image, himage, hmem⟩ := himage
  cases h with
  | named name_eq => cases hunnamed.symm.trans name_eq
  | only _ single =>
      rw [single] at hc
      obtain rfl := List.mem_singleton.mp hc
      exact ⟨[], [], single, ⟨image, himage, hmem⟩, by simp⟩
  | selected _ first => exact first
  | unasked undecided => exact absurd hmem (undecided.unselected c hc image himage)
  | asked undecided => exact absurd hmem (undecided.unselected c hc image himage)

end Chosen

/-! ## Both steps -/

/-- A pod that is read by its name costs one request and will not be one beyond recovery. -/
theorem readNamedPod_eq_ok {name : String} {ns : Yaml}
    (h : readNamedPod name ns w = (.ok pod, w')) :
    w' = w.requested (.readPod (some name) ns) ∧
      ∃ status, pod.status? = some status ∧ Status.isCritical status = false := by
  unfold readNamedPod at h
  obtain ⟨read, w₁, hread, hchecked⟩ := bind_eq_ok h
  obtain ⟨hworld, -⟩ := Cluster.readPod_eq_ok hread
  obtain ⟨status, w₂, hneed, hjudged⟩ := bind_eq_ok hchecked
  obtain ⟨hstatus, rfl⟩ := need_eq_ok hneed
  split_ifs at hjudged with hcritical
  · cases hjudged
  · cases hjudged
    exact ⟨hworld, status, hstatus, Bool.eq_false_iff.mpr hcritical⟩

/-- The pod that a selector means is read by its name, or found by a search if it has none. -/
theorem resolveNewestPod_eq_ok {interval grace : Double}
    (h : resolveNewestPod selector interval grace w = (.ok pod, w')) :
    let ns := selector.nsOr w.cluster.ns
    (∃ name, Text.nonempty selector.podName = some name ∧
      readNamedPod name ns w = (.ok pod, w')) ∨
    Text.nonempty selector.podName = none ∧
      ∃ k pods, (searchFor selector ns interval).FindsAt k pods pod w w' := by
  intro ns
  unfold resolveNewestPod at h
  rw [bind_of_ok (get_apply w)] at h
  cases hname : Text.nonempty selector.podName with
  | some name =>
      rw [hname] at h
      exact Or.inl ⟨name, rfl, h⟩
  | none =>
      rw [hname] at h
      exact Or.inr ⟨rfl, Search.newestRunningPod_eq_ok h⟩

/-- A container is chosen without a picker unless the selector is undecided. -/
theorem selectContainer_of_decided (hspec : pod.spec = some spec)
    (hdecided : ¬ Undecided selector spec) (other : Option Picker) :
    selectContainer pod selector other w = selectContainer pod selector picker w := by
  unfold selectContainer
  rw [bind_of_ok (hspec ▸ need_some spec w), bind_of_ok (hspec ▸ need_some spec w)]
  cases hcontainers : spec.containers with
  | nil => rfl
  | cons first rest =>
      dsimp only
      cases hname : Text.nonempty selector.containerName with
      | some name => rfl
      | none =>
          cases rest with
          | nil => rfl
          | cons second rest =>
              dsimp only [List.isEmpty_cons]
              unfold preferredContainer
              cases hfind : (first :: second :: rest).find? (hasSelectedImage selector.images) with
              | some c => rfl
              | none => exact absurd (undecided_of_find? hcontainers hname (by simp) hfind) hdecided

/-- The whole law of resolving a selector. The world in which the pod was found stands between
both steps: it has seen one request for the pod of the name, or the questions of a search, and
nothing else; what comes after it is the picker's doing, and it is asked only if the selector is
undecided. -/
theorem resolveNewest_law (selector : Selector) (picker : Option Picker)
    (interval grace : Double) (hhonest : ∀ pick, picker = some pick → pick.Honest) (w : World) :
    let ns := selector.nsOr w.cluster.ns
    (∀ pod container w',
      resolveNewest selector picker interval grace w = (.ok (pod, container), w') →
      ∃ found spec status, pod.spec = some spec ∧ container ∈ spec.containers ∧
        pod.status? = some status ∧ Status.isCritical status = false ∧
        (∀ name, Text.nonempty selector.podName = some name →
          found.journal = w.journal.push (.call (.readPod (some name) ns))) ∧
        (Text.nonempty selector.podName = none →
          (∃ k pods, (searchFor selector ns interval).FindsAt k pods pod w found) ∧
          status = "Running" ∧
          ∃ metadata observed, pod.metadata = some metadata ∧ pod.status = some observed ∧
            metadata.deleting = false ∧ ∀ s ∈ observed.initContainers, s.Succeeded) ∧
        (∀ name, Text.nonempty selector.containerName = some name →
          IsFirst (fun c => c.name = some name) container spec.containers) ∧
        (Text.nonempty selector.containerName = none → Text.nonempty selector.podName = none →
          selector.images ≠ [] →
          IsFirst (fun c => ∃ image, c.image = some image ∧ image ∈ selector.images) container
            spec.containers) ∧
        (w' = found ∨ Undecided selector spec ∧ ∃ pick picked, picker = some pick ∧
          pick spec.containers found = (.ok picked, w'))) ∧
    ((∀ pod found spec, resolveNewestPod selector interval grace w = (.ok pod, found) →
        pod.spec = some spec → ¬ Undecided selector spec) →
      ∀ other, resolveNewest selector other interval grace w =
        resolveNewest selector picker interval grace w) := by
  intro ns
  constructor
  · intro pod container w' h
    obtain ⟨pod', found, hpod, hchoice⟩ := bind_eq_ok h
    obtain ⟨container', w₂, hselect, hpair⟩ := bind_eq_ok hchoice
    cases hpair
    obtain ⟨spec, hspec, hchosen⟩ := selectContainer_eq_ok hselect
    have hmem := hchosen.mem hhonest
    have hasked := hchosen.same_or_asked
    rcases resolveNewestPod_eq_ok hpod with ⟨name, hname, hread⟩ | ⟨hunnamed, k, pods, hfinds⟩
    · obtain ⟨hworld, status, hstatus, hcritical⟩ := readNamedPod_eq_ok hread
      refine ⟨found, spec, status, hspec, hmem, hstatus, hcritical, ?_, ?_,
        fun _ => hchosen.first_of_named, ?_, hasked⟩
      · intro name' hname'
        obtain rfl := Option.some.inj (hname.symm.trans hname')
        rw [hworld]
        rfl
      · intro hunnamed
        cases hname.symm.trans hunnamed
      · intro _ hunnamed
        cases hname.symm.trans hunnamed
    · refine ⟨found, spec, "Running", hspec, hmem, hfinds.running, Search.not_isCritical_running,
        ?_, ?_, fun _ => hchosen.first_of_named, ?_, hasked⟩
      · intro name hname
        cases hunnamed.symm.trans hname
      · intro _
        exact ⟨⟨k, pods, hfinds⟩, rfl, Pod.live_of_running hfinds.running⟩
      · intro hnamed _ himages
        -- the search let the pod pass, so one of its containers has a selected image
        obtain ⟨spec', c, image, hspec', hc, himage, hselected⟩ :=
          hfinds.passes.resolve_left himages
        obtain rfl := Option.some.inj (hspec.symm.trans hspec')
        exact hchosen.first_of_selected hnamed ⟨c, hc, image, himage, hselected⟩
  · intro hdecided other
    unfold resolveNewest
    rcases hpod : resolveNewestPod selector interval grace w with ⟨halt | pod, found⟩
    · rw [bind_of_error hpod, bind_of_error hpod]
    · rw [bind_of_ok hpod, bind_of_ok hpod]
      have hselect : selectContainer pod selector other found =
          selectContainer pod selector picker found := by
        cases hspec : pod.spec with
        | none => exact selectContainer_of_missing hspec _
        | some spec => exact selectContainer_of_decided hspec (hdecided pod found spec hpod hspec) _
      rw [bind_apply, bind_apply, hselect]

/-- Of the two containers of a pod that is found with the first question the second is picked. -/
theorem resolveNewest_second_picked :
    let main : Container := ⟨some "main", some "web:1", false, false⟩
    let sidecar : Container := ⟨some "sidecar", some "log:1", false, false⟩
    let pod : Pod :=
      { metadata := some ⟨some "web-0", some "default", [], none, false⟩
        spec := some ⟨[main, sidecar], 0⟩
        status := some ⟨some "Running", none, [], []⟩ }
    let w := { World.empty with
      cluster := { Cluster.empty with listAnswers := fun _ => .ok [pod] } }
    let pick : Picker := fun containers => pure containers.getLast?
    ∃ w' found k pods,
      resolveNewest .any (some pick) Search.usualInterval Search.usualGrace w =
        (.ok (pod, sidecar), w') ∧
      sidecar ∈ [main, sidecar] ∧
      (searchFor .any (.text "default") Search.usualInterval).FindsAt k pods pod w found := by
  intro main sidecar pod w pick
  have hhonest : ∀ pick', some pick = some pick' → pick'.Honest := by
    rintro _ ⟨⟩ containers world picked world' hpick
    exact List.mem_of_getLast? (Except.ok.inj (Prod.mk.inj hpick).1)
  have hstatus : pod.status? = some "Running" := by decide
  have hdecides : (Search.usual (.text "default") "" []).NewestDecides 1
      ((Search.usual (.text "default") "" []).answer w 1) (.ok pod) := by
    have hcomplete : ∀ p ∈ [pod], p.Complete := by
      intro p hp
      obtain rfl := List.mem_singleton.mp hp
      exact ⟨rfl, rfl, rfl⟩
    exact .running hcomplete ⟨[], [], rfl, Or.inl rfl, by simp, by simp⟩ hstatus
  have hwait : Budget.ofSetting (.integer 120) = .seconds (.finite 120) := by decide +kernel
  have hclock : w.clock.value? = some 0 := rfl
  have hfound := (Search.newestRunningPod_decided (.text "default") "" [] (b := 120) rfl
    (by decide) hwait hclock le_rfl (by norm_num) le_rfl (le_max_left _ _) (by omega) hdecides).1
  let found := (newestRunningPod (Search.usual (.text "default") "" []) (.integer 120)
    Search.usualGrace w).2
  have hresolved : resolveNewest .any (some pick) Search.usualInterval Search.usualGrace w =
      (.ok (pod, sidecar), found) := by
    have hpod : resolveNewestPod .any Search.usualInterval Search.usualGrace w =
        (.ok pod, found) := by
      unfold resolveNewestPod
      rw [bind_of_ok (get_apply w), show Text.nonempty Selector.any.podName = none from rfl]
      exact Prod.ext hfound rfl
    unfold resolveNewest
    rw [bind_of_ok hpod]
    rfl
  obtain ⟨found', spec, status, hspec, hmem, -, -, -, hsearch, -⟩ :=
    (resolveNewest_law .any (some pick) Search.usualInterval Search.usualGrace hhonest w).1
      pod sidecar found hresolved
  cases hspec
  obtain ⟨⟨k, pods, hfinds⟩, -⟩ := hsearch rfl
  exact ⟨found, found', k, pods, hresolved, hmem, hfinds⟩

end Discovery

end PodReach
