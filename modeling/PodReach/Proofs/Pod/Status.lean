import Mathlib.Data.List.Basic
import PodReach.Pod.Status
import PodReach.Proofs.Outcome

/-!
# Which status a pod shows

The status of a pod is found by scans that stop early. Here it is described without a scan, by
which text a pod shows and why: a deletion under way comes before everything, then the first init
container that has not succeeded, then the last container that waits for a reason or has ended,
then the pod itself. The description has exactly one text for every pod, the one that is computed.
-/

namespace PodReach

/-- A text counts if it is there and not empty. -/
theorem Text.nonempty_eq_some_iff {text : Option String} {s : String} :
    Text.nonempty text = some s ↔ text = some s ∧ s ≠ "" := by
  cases text with
  | none => simp [nonempty]
  | some t =>
      simp only [nonempty, String.isEmpty_iff, Option.some.injEq]
      split_ifs with hempty
      · subst hempty
        simp only [false_iff, not_and, not_not]
        exact Eq.symm
      · simp only [Option.some.injEq]
        constructor
        · rintro rfl
          exact ⟨rfl, hempty⟩
        · exact And.left

/-- Otherwise it is missing or empty. -/
theorem Text.nonempty_eq_none_iff {text : Option String} :
    Text.nonempty text = none ↔ ∀ s, text = some s → s = "" := by
  rw [Option.eq_none_iff_forall_ne_some]
  simp only [ne_eq, nonempty_eq_some_iff, not_and, not_not]

/-! ## Containers that have ended -/

/-- What the end of a container is described by: its reason, else a signal that is not zero, else
its exit code. -/
inductive Terminated.Describes (t : Terminated) : String → Prop
  | reason {r : String} (reason : t.reason = some r) (nonempty : r ≠ "") : Describes t r
  | signal {n : Int} (unreasoned : ∀ r, t.reason = some r → r = "") (signal : t.signal = some n)
      (nonzero : n ≠ 0) : Describes t s!"Signal:{n}"
  | exitCode (unreasoned : ∀ r, t.reason = some r → r = "")
      (unsignalled : ∀ n, t.signal = some n → n = 0) :
      Describes t s!"ExitCode:{t.exitCode.getD 0}"

theorem Terminated.describes_describe (t : Terminated) : t.Describes t.describe := by
  unfold describe
  cases hreason : Text.nonempty t.reason with
  | some r =>
      obtain ⟨hsome, hnonempty⟩ := Text.nonempty_eq_some_iff.mp hreason
      exact .reason hsome hnonempty
  | none =>
      have hunreasoned := Text.nonempty_eq_none_iff.mp hreason
      simp only [Option.getD_none, code]
      cases hsignal : t.signal with
      | none => exact .exitCode hunreasoned (by simp [hsignal])
      | some n =>
          by_cases hzero : n = 0
          · subst hzero
            exact .exitCode hunreasoned (by simp [hsignal])
          · simp only [ne_eq, hzero, not_false_eq_true, if_true]
            exact .signal hunreasoned hsignal hzero

theorem Terminated.Describes.eq {t : Terminated} {text : String} (h : t.Describes text) :
    text = t.describe := by
  cases h with
  | reason reason nonempty =>
      rw [describe, Text.nonempty_eq_some_iff.mpr ⟨reason, nonempty⟩, Option.getD_some]
  | signal unreasoned signal nonzero =>
      rw [describe, Text.nonempty_eq_none_iff.mpr unreasoned, Option.getD_none]
      simp only [code, signal, ne_eq, nonzero, not_false_eq_true, if_true]
  | exitCode unreasoned unsignalled =>
      rw [describe, Text.nonempty_eq_none_iff.mpr unreasoned, Option.getD_none]
      cases hsignal : t.signal with
      | none => simp only [code, hsignal]
      | some n => simp only [code, hsignal, unsignalled n hsignal, ne_eq, not_true, if_false]

namespace ContainerStatus

variable {s : ContainerStatus}

/-! ## What is known about a container -/

/-- The container ended so. -/
def EndedAs (s : ContainerStatus) (t : Terminated) : Prop :=
  ∃ state, s.state = some state ∧ state.terminated = some t

/-- The container waits, and a reason is given for it. -/
def WaitsFor (s : ContainerStatus) (reason : String) : Prop :=
  ∃ state waiting, s.state = some state ∧ state.waiting = some waiting ∧
    waiting.reason = some reason ∧ reason ≠ ""

/-- The container ended with exit code zero. -/
def Succeeded (s : ContainerStatus) : Prop :=
  ∃ t, s.EndedAs t ∧ t.exitCode = some 0

/-- The container is ready and running. -/
def ReadyAndRunning (s : ContainerStatus) : Prop :=
  s.ready = true ∧ ∃ state, s.state = some state ∧ state.running = true

theorem ended_eq_some_iff {t : Terminated} : s.ended = some t ↔ s.EndedAs t := by
  unfold ended EndedAs
  rw [Option.bind_eq_some_iff]

theorem ended_eq_none_iff : s.ended = none ↔ ∀ t, ¬ s.EndedAs t := by
  rw [Option.eq_none_iff_forall_ne_some]
  simp only [ne_eq, ended_eq_some_iff]

theorem waitReason_eq_some_iff {reason : String} :
    s.waitReason = some reason ↔ s.WaitsFor reason := by
  unfold waitReason WaitsFor
  rw [Text.nonempty_eq_some_iff]
  constructor
  · rintro ⟨hreason, hnonempty⟩
    obtain ⟨waiting, hwaiting, hreason⟩ := Option.bind_eq_some_iff.mp hreason
    obtain ⟨state, hstate, hwaiting⟩ := Option.bind_eq_some_iff.mp hwaiting
    exact ⟨state, waiting, hstate, hwaiting, hreason, hnonempty⟩
  · rintro ⟨state, waiting, hstate, hwaiting, hreason, hnonempty⟩
    simp only [hstate, hwaiting, hreason, Option.bind_some]
    exact ⟨trivial, hnonempty⟩

theorem waitReason_eq_none_iff : s.waitReason = none ↔ ∀ reason, ¬ s.WaitsFor reason := by
  rw [Option.eq_none_iff_forall_ne_some]
  simp only [ne_eq, waitReason_eq_some_iff]

theorem succeeded_iff : s.succeeded = true ↔ s.Succeeded := by
  unfold succeeded Succeeded
  rw [Option.any_eq_true]
  simp only [beq_iff_eq, ended_eq_some_iff]

theorem readyAndRunning_iff : s.readyAndRunning = true ↔ s.ReadyAndRunning := by
  unfold readyAndRunning ReadyAndRunning
  rw [Bool.and_eq_true, Option.any_eq_true]

/-! ## What a container says about its pod -/

/-- What an init container that has not succeeded says about its pod. -/
inductive InitSays (index total : Nat) (s : ContainerStatus) : String → Prop
  | ended {t : Terminated} {text : String} (ended : s.EndedAs t) (describes : t.Describes text) :
      InitSays index total s ("Init:" ++ text)
  | waiting {reason : String} (unended : ∀ t, ¬ s.EndedAs t) (waits : s.WaitsFor reason)
      (reason_ne : reason ≠ "PodInitializing") : InitSays index total s ("Init:" ++ reason)
  | progress (unended : ∀ t, ¬ s.EndedAs t)
      (unreasoned : ∀ reason, s.WaitsFor reason → reason = "PodInitializing") :
      InitSays index total s s!"Init:{index}/{total}"

/-- What a main container says about its pod, if it says anything. -/
inductive Says (s : ContainerStatus) : String → Prop
  | waiting {reason : String} (waits : s.WaitsFor reason) : Says s reason
  | ended {t : Terminated} {text : String} (unreasoned : ∀ reason, ¬ s.WaitsFor reason)
      (ended : s.EndedAs t) (describes : t.Describes text) : Says s text

/-- A main container without a reason to wait that has not ended says nothing. -/
def Silent (s : ContainerStatus) : Prop :=
  (∀ reason, ¬ s.WaitsFor reason) ∧ ∀ t, ¬ s.EndedAs t

theorem initSays_initVerdict (index total : Nat) (s : ContainerStatus) :
    s.InitSays index total (s.initVerdict index total) := by
  unfold initVerdict
  cases hended : s.ended with
  | some t => exact .ended (ended_eq_some_iff.mp hended) t.describes_describe
  | none =>
      have hunended := ended_eq_none_iff.mp hended
      cases hwait : s.waitReason with
      | none =>
          refine .progress hunended fun reason hreason => ?_
          exact absurd hreason (waitReason_eq_none_iff.mp hwait reason)
      | some reason =>
          have hwaits := waitReason_eq_some_iff.mp hwait
          by_cases hinitializing : reason = "PodInitializing"
          · subst hinitializing
            refine .progress hunended fun reason hreason => ?_
            rw [waitReason_eq_some_iff.mpr hreason] at hwait
            exact Option.some.inj hwait
          · simp only [beq_iff_eq, hinitializing, if_false]
            exact .waiting hunended hwaits hinitializing

theorem InitSays.eq {index total : Nat} {text : String} (h : s.InitSays index total text) :
    text = s.initVerdict index total := by
  unfold initVerdict
  cases h with
  | ended ended describes => simp only [ended_eq_some_iff.mpr ended, describes.eq]
  | waiting unended waits reason_ne =>
      simp only [ended_eq_none_iff.mpr unended, waitReason_eq_some_iff.mpr waits, beq_iff_eq,
        reason_ne, if_false]
  | progress unended unreasoned =>
      rw [ended_eq_none_iff.mpr unended]
      cases hwait : s.waitReason with
      | none => rfl
      | some reason =>
          have hinitializing := unreasoned reason (waitReason_eq_some_iff.mp hwait)
          simp only [hinitializing, beq_self_eq_true, if_true]

theorem verdict_eq_some_iff {text : String} : s.verdict = some text ↔ s.Says text := by
  unfold verdict
  cases hwait : s.waitReason with
  | some reason =>
      have hwaits := waitReason_eq_some_iff.mp hwait
      constructor
      · rintro ⟨⟩
        exact .waiting hwaits
      · intro h
        cases h with
        | waiting waits => exact hwait.symm.trans (waitReason_eq_some_iff.mpr waits)
        | ended unreasoned => exact absurd hwaits (unreasoned reason)
  | none =>
      have hunreasoned := waitReason_eq_none_iff.mp hwait
      constructor
      · intro h
        obtain ⟨t, hended, rfl⟩ := Option.map_eq_some_iff.mp h
        exact .ended hunreasoned (ended_eq_some_iff.mp hended) t.describes_describe
      · intro h
        cases h with
        | waiting waits => exact absurd waits (hunreasoned _)
        | ended _ ended describes =>
            rw [describes.eq]
            exact Option.map_eq_some_iff.mpr ⟨_, ended_eq_some_iff.mpr ended, rfl⟩

theorem verdict_eq_none_iff : s.verdict = none ↔ s.Silent := by
  unfold Silent
  rw [← waitReason_eq_none_iff, ← ended_eq_none_iff]
  unfold verdict
  cases s.waitReason <;> simp

end ContainerStatus

namespace Pod

/-! ## What a pod shows -/

/-- What a pod says itself: its reason, else its phase. -/
inductive Base (status : PodStatus) : String → Prop
  | reason {r : String} (reason : status.reason = some r) (nonempty : r ≠ "") : Base status r
  | phase (unreasoned : ∀ r, status.reason = some r → r = "") :
      Base status (status.phase.getD "")

/-- The text that the main containers choose: what the last of them that says anything says, or
what the pod says itself. -/
inductive Chooses (status : PodStatus) : String → Prop
  | container {earlier later : List ContainerStatus} {s : ContainerStatus} {text : String}
      (split : status.containers = earlier ++ s :: later) (said : s.Says text)
      (silent : ∀ other ∈ later, other.Silent) : Chooses status text
  | base {text : String} (silent : ∀ s ∈ status.containers, s.Silent) (base : Base status text) :
      Chooses status text

/-- The text that a pod shows as its status. -/
inductive Shows (metadata : Metadata) (spec : Option PodSpec) (status : PodStatus) :
    String → Prop
  /-- The pod is being deleted, and its node is lost. -/
  | lost (deleting : metadata.deleting = true) (reason : status.reason = some "NodeLost") :
      Shows metadata spec status "Unknown"
  /-- The pod is being deleted. -/
  | terminating (deleting : metadata.deleting = true) (reason : status.reason ≠ some "NodeLost") :
      Shows metadata spec status "Terminating"
  /-- The first init container that has not succeeded decides. -/
  | init {before later : List ContainerStatus} {s : ContainerStatus} {text : String}
      (live : metadata.deleting = false)
      (split : status.initContainers = before ++ s :: later)
      (done : ∀ other ∈ before, other.Succeeded) (undone : ¬ s.Succeeded)
      (said : s.InitSays before.length ((spec.map (·.initContainers)).getD 0) text) :
      Shows metadata spec status text
  /-- Something still runs in a pod that would be completed. -/
  | running (live : metadata.deleting = false) (done : ∀ s ∈ status.initContainers, s.Succeeded)
      (completed : Chooses status "Completed") (busy : ∃ s ∈ status.containers, s.ReadyAndRunning) :
      Shows metadata spec status "Running"
  /-- The main containers decide. -/
  | main {text : String} (live : metadata.deleting = false)
      (done : ∀ s ∈ status.initContainers, s.Succeeded) (chosen : Chooses status text)
      (unmasked : text = "Completed" → ∀ s ∈ status.containers, ¬ s.ReadyAndRunning) :
      Shows metadata spec status text

variable {metadata : Metadata} {spec : Option PodSpec} {status : PodStatus} {text : String}

theorem base_iff : Base status text ↔ baseStatus status = text := by
  unfold baseStatus
  constructor
  · intro h
    cases h with
    | reason reason nonempty =>
        rw [Text.nonempty_eq_some_iff.mpr ⟨reason, nonempty⟩, Option.getD_some]
    | phase unreasoned => rw [Text.nonempty_eq_none_iff.mpr unreasoned, Option.getD_none]
  · rintro rfl
    cases hreason : Text.nonempty status.reason with
    | some r =>
        obtain ⟨hsome, hnonempty⟩ := Text.nonempty_eq_some_iff.mp hreason
        exact .reason hsome hnonempty
    | none => exact .phase (Text.nonempty_eq_none_iff.mp hreason)

/-- The scan of the main containers from the last to the first finds the text they choose. -/
theorem chooses_iff :
    Chooses status text ↔
      (status.containers.reverse.findSome? (·.verdict)).getD (baseStatus status) = text := by
  have hnone : status.containers.reverse.findSome? (·.verdict) = none ↔
      ∀ s ∈ status.containers, s.Silent := by
    simp only [List.findSome?_eq_none_iff, List.mem_reverse,
      ContainerStatus.verdict_eq_none_iff]
  have hsome : ∀ text, status.containers.reverse.findSome? (·.verdict) = some text ↔
      ∃ earlier s later, status.containers = earlier ++ s :: later ∧ s.Says text ∧
        ∀ other ∈ later, other.Silent := by
    intro text
    simp only [List.findSome?_eq_some_iff, ContainerStatus.verdict_eq_some_iff,
      ContainerStatus.verdict_eq_none_iff]
    constructor
    · rintro ⟨later, s, earlier, hsplit, hsays, hsilent⟩
      refine ⟨earlier.reverse, s, later.reverse, ?_, hsays, by simpa using hsilent⟩
      rw [List.reverse_eq_iff.mp hsplit]
      simp
    · rintro ⟨earlier, s, later, hsplit, hsays, hsilent⟩
      exact ⟨later.reverse, s, earlier.reverse, by simp [hsplit], hsays, by simpa using hsilent⟩
  constructor
  · intro h
    cases h with
    | container split said silent =>
        rw [(hsome text).mpr ⟨_, _, _, split, said, silent⟩, Option.getD_some]
    | base silent base => rw [hnone.mpr silent, Option.getD_none, base_iff.mp base]
  · rintro rfl
    cases hscan : status.containers.reverse.findSome? (·.verdict) with
    | none => exact .base (hnone.mp hscan) (base_iff.mpr rfl)
    | some text =>
        obtain ⟨earlier, s, later, hsplit, hsays, hsilent⟩ := (hsome text).mp hscan
        exact .container hsplit hsays hsilent

/-- The scan of the init containers stops at the first one that has not succeeded. -/
theorem initStatusFrom_of_split {before later : List ContainerStatus} {s : ContainerStatus}
    (total index : Nat) (hdone : ∀ other ∈ before, other.Succeeded) (hundone : ¬ s.Succeeded) :
    initStatusFrom total index (before ++ s :: later) =
      some (s.initVerdict (index + before.length) total) := by
  induction before generalizing index with
  | nil =>
      have hfailed : ¬ s.succeeded = true := fun h => hundone (ContainerStatus.succeeded_iff.mp h)
      simp only [List.nil_append, initStatusFrom, if_neg hfailed, List.length_nil, Nat.add_zero]
  | cons first before ih =>
      obtain ⟨hfirst, hrest⟩ := List.forall_mem_cons.mp hdone
      simp only [List.cons_append, initStatusFrom, ContainerStatus.succeeded_iff.mpr hfirst,
        if_true]
      rw [ih (index + 1) hrest, List.length_cons, Nat.add_right_comm, Nat.add_assoc]

/-- It finds nothing if all of them have succeeded. -/
theorem initStatusFrom_of_done {statuses : List ContainerStatus} (total index : Nat)
    (hdone : ∀ s ∈ statuses, s.Succeeded) : initStatusFrom total index statuses = none := by
  induction statuses generalizing index with
  | nil => rfl
  | cons first rest ih =>
      obtain ⟨hfirst, hrest⟩ := List.forall_mem_cons.mp hdone
      simp only [initStatusFrom, ContainerStatus.succeeded_iff.mpr hfirst, if_true]
      exact ih (index + 1) hrest

/-- The status of a pod with an init container that has not succeeded. -/
theorem liveStatus_of_split {before later : List ContainerStatus} {s : ContainerStatus}
    (hsplit : status.initContainers = before ++ s :: later)
    (hdone : ∀ other ∈ before, other.Succeeded) (hundone : ¬ s.Succeeded) :
    liveStatus spec status =
      s.initVerdict before.length ((spec.map (·.initContainers)).getD 0) := by
  unfold liveStatus
  dsimp only
  rw [hsplit, initStatusFrom_of_split _ 0 hdone hundone, Nat.zero_add]

/-- The status of a pod whose init containers have all succeeded. -/
theorem liveStatus_of_done (hdone : ∀ s ∈ status.initContainers, s.Succeeded) :
    liveStatus spec status = mainStatus (baseStatus status) status.containers := by
  unfold liveStatus
  dsimp only
  rw [initStatusFrom_of_done _ 0 hdone]

theorem any_readyAndRunning_iff {containers : List ContainerStatus} :
    containers.any (·.readyAndRunning) = true ↔ ∃ s ∈ containers, s.ReadyAndRunning := by
  simp only [List.any_eq_true, ContainerStatus.readyAndRunning_iff]

/-- A pod shows its status. -/
theorem shows_statusOf (metadata : Metadata) (spec : Option PodSpec) (status : PodStatus) :
    Shows metadata spec status (statusOf metadata spec status) := by
  unfold statusOf
  cases hlive : metadata.deleting with
  | true =>
      by_cases hlost : status.reason = some "NodeLost"
      · simp only [hlost, beq_self_eq_true, if_true]
        exact .lost hlive hlost
      · simp only [beq_iff_eq, hlost, if_true, if_false]
        exact .terminating hlive hlost
  | false =>
      simp only [Bool.false_eq_true, if_false]
      rcases Outcome.all_or_first ContainerStatus.Succeeded status.initContainers with
        hdone | ⟨before, s, later, hsplit, hdone, hundone⟩
      · rw [liveStatus_of_done hdone]
        unfold mainStatus
        have hchosen : Chooses status _ := chooses_iff.mpr rfl
        dsimp only
        split_ifs with hmasked
        · rw [Bool.and_eq_true, beq_iff_eq] at hmasked
          rw [hmasked.1] at hchosen
          exact .running hlive hdone hchosen (any_readyAndRunning_iff.mp hmasked.2)
        · refine .main hlive hdone hchosen fun hcompleted s hs hbusy => hmasked ?_
          rw [Bool.and_eq_true, beq_iff_eq]
          exact ⟨hcompleted, any_readyAndRunning_iff.mpr ⟨s, hs, hbusy⟩⟩
      · rw [liveStatus_of_split hsplit hdone hundone]
        exact .init hlive hsplit hdone hundone (s.initSays_initVerdict _ _)

/-- A pod shows nothing but its status. -/
theorem Shows.eq (h : Shows metadata spec status text) :
    text = statusOf metadata spec status := by
  unfold statusOf
  cases h with
  | lost deleting reason => simp only [deleting, reason, beq_self_eq_true, if_true]
  | terminating deleting reason => simp only [deleting, beq_iff_eq, reason, if_true, if_false]
  | init live split done undone said =>
      simp only [live, Bool.false_eq_true, if_false]
      rw [liveStatus_of_split split done undone, said.eq]
  | running live done completed busy =>
      simp only [live, Bool.false_eq_true, if_false]
      rw [liveStatus_of_done done, mainStatus, chooses_iff.mp completed]
      simp only [beq_self_eq_true, any_readyAndRunning_iff.mpr busy, Bool.and_self, if_true]
  | main live done chosen unmasked =>
      simp only [live, Bool.false_eq_true, if_false]
      rw [liveStatus_of_done done, mainStatus, chooses_iff.mp chosen, if_neg]
      rw [Bool.and_eq_true, beq_iff_eq, any_readyAndRunning_iff]
      rintro ⟨hcompleted, s, hs, hbusy⟩
      exact unmasked hcompleted s hs hbusy

/-- The whole law of the status of a pod that has metadata and a status: it shows exactly one text,
and behind the first init container that has not succeeded nothing matters. -/
theorem status?_law (metadata : Metadata) (spec : Option PodSpec) (status : PodStatus) :
    (∀ text, status? ⟨some metadata, spec, some status⟩ = some text ↔
      Shows metadata spec status text) ∧
    ∀ before s later, status.initContainers = before ++ s :: later →
      (∀ other ∈ before, other.Succeeded) → ¬ s.Succeeded → ∀ later' containers,
        status? ⟨some metadata, spec, some { status with
          initContainers := before ++ s :: later', containers := containers }⟩ =
        status? ⟨some metadata, spec, some status⟩ := by
  refine ⟨fun text => ?_, ?_⟩
  · simp only [status?, Option.some.injEq]
    constructor
    · rintro rfl
      exact shows_statusOf metadata spec status
    · intro h
      exact h.eq.symm
  · intro before s later hsplit hdone hundone later' containers
    simp only [status?, statusOf, Option.some.injEq]
    rw [liveStatus_of_split hsplit hdone hundone, liveStatus_of_split rfl hdone hundone]

/-- A killed init container decides, whether or not others crash and a main container runs. -/
theorem status?_init_killed :
    let metadata : Metadata := ⟨some "web-0", some "default", [], none, false⟩
    let spec : Option PodSpec := some ⟨[], 3⟩
    let migrated : ContainerStatus := ⟨false, 0, some ⟨false, none, some ⟨none, none, some 0⟩⟩⟩
    let killed : ContainerStatus := ⟨false, 0, some ⟨false, none, some ⟨none, some 9, some 137⟩⟩⟩
    let crashing : ContainerStatus := ⟨false, 4, some ⟨false, some ⟨some "CrashLoopBackOff"⟩, none⟩⟩
    let busy : ContainerStatus := ⟨true, 0, some ⟨true, none, none⟩⟩
    status? ⟨some metadata, spec, some ⟨some "Pending", none, [busy],
        [migrated, killed, crashing]⟩⟩ = some "Init:Signal:9" ∧
      status? ⟨some metadata, spec, some ⟨some "Pending", none, [], [migrated, killed]⟩⟩ =
        some "Init:Signal:9" := by
  intro metadata spec migrated killed crashing busy
  have hdone : ∀ other ∈ [migrated], other.Succeeded := by
    intro other hother
    obtain rfl := List.mem_singleton.mp hother
    exact ContainerStatus.succeeded_iff.mp rfl
  have hundone : ¬ killed.Succeeded := by
    rw [← ContainerStatus.succeeded_iff]
    decide
  have hlaw := (status?_law metadata spec ⟨some "Pending", none, [busy],
    [migrated, killed, crashing]⟩).2 [migrated] killed [crashing] rfl hdone hundone [] []
  have hshown : status? ⟨some metadata, spec, some ⟨some "Pending", none, [], [migrated, killed]⟩⟩ =
      some "Init:Signal:9" := by
    decide +kernel
  exact ⟨hlaw.symm.trans hshown, hshown⟩

end Pod

end PodReach
