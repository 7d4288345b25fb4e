import PodReach.Program.Run
import PodReach.Proofs.Discovery.Frames
import PodReach.Proofs.Discovery.Newest
import PodReach.Proofs.Program.Quiet
import PodReach.Proofs.Setup.Conduct

/-!
# The conduct of the commands

Every command asks the cluster only about the namespace that it is run for: the one that is given,
or else that of the client. Whatever falls back on the client's namespace later on arrives at the
same one, and so does whatever takes the namespace from a pod, since a pod that was found lies in
the namespace that was asked about. A refusal that is not passed over ends the command and is told
by the halt that it ends with.

A function that takes a namespace is known to be in good conduct if the namespace, or that of the
client in its place, is the one of the scope.
-/

namespace PodReach

open Run World

namespace Yaml

theorem ofText?_of_same {text : Option String} {value : Yaml}
    (h : same (ofText? text) value = true) : ofText? text = value := by
  cases text <;> cases value <;> simp_all [ofText?, same]

end Yaml

section Conduct

variable {scope : Scope} {w₀ w : World} {ns : Yaml}

/-- A pod that is reached in the namespace of a scope: its own namespace, or that of the client if
it reports none. -/
def Pod.Belongs (pod : Pod) (scope : Scope) (w₀ : World) : Prop :=
  ∀ metadata, pod.metadata = some metadata →
    (Yaml.ofText? metadata.ns).orElse w₀.cluster.ns = scope.ns

/-- A pod that lies in the namespace of the client is reached there. -/
theorem Pod.belongs_of_liesIn {pod : Pod} (hhome : w₀.cluster.ns = scope.ns)
    (h : Cluster.liesIn scope.ns pod = true) : pod.Belongs scope w₀ := by
  intro metadata hmetadata
  have hsame : Yaml.ofText? metadata.ns = scope.ns := by
    apply Yaml.ofText?_of_same
    simpa [Cluster.liesIn, Pod.ns?, hmetadata] using h
  rw [hsame, hhome, Yaml.orElse_self]

/-- The namespace of a selector stays the same. -/
theorem World.Conduct.nsOr_eq {selector : Selector} {halt? : Option Halt}
    (h : Conduct scope w₀ halt? w) (hns : selector.ns.orElse w₀.cluster.ns = ns) :
    selector.nsOr w.cluster.ns = ns := by
  rw [Selector.nsOr, h.ns_eq, hns]

/-! ## Finding pods and containers -/

namespace Discovery

open Cluster

theorem leads_readNamedPod (name : String) (h : Conduct scope w₀ none w) :
    Leads scope w₀ (fun pod _ => liesIn scope.ns pod = true) (readNamedPod name scope.ns w) := by
  refine (leads_readPod rfl (some name) h).bind fun pod w₁ h₁ hpod => ?_
  refine (leads_quiet (keeps_need _) h₁).bind fun status w₂ h₂ _ => ?_
  split
  · exact leads_throw _ h₂
  · exact leads_pure h₂ hpod

namespace Search

variable {s : Search}

theorem leads_runningRound (hns : s.ns = scope.ns) (minWait : Double)
    (h : Conduct scope w₀ none w) : Leads scope w₀ Anything (s.runningRound minWait w) := by
  refine (leads_quiet (quiet_pause _) h).bind fun _ w₁ h₁ _ => ?_
  refine (leads_listPods hns s.labels h₁).bind fun pods w₂ h₂ _ => ?_
  exact (leads_quiet (keeps_ofExcept _) h₂).anything

theorem leads_running (hns : s.ns = scope.ns) (rounds : Nat) (budget minWait : Double)
    (h : Conduct scope w₀ none w) :
    Leads scope w₀ Anything (s.running rounds budget minWait w) := by
  induction rounds generalizing budget minWait w with
  | zero => exact leads_throw _ h
  | succ rounds ih =>
      unfold running
      split
      · refine (leads_runningRound hns minWait h).bind fun found w₁ h₁ _ => ?_
        split
        · exact leads_pure h₁ trivial
        · exact (leads_quiet (quiet_pause _) h₁).bind fun _ w₂ h₂ _ => ih _ _ h₂
      · exact leads_throw _ h

theorem leads_newestRound (hns : s.ns = scope.ns) (grace start : Double)
    (h : Conduct scope w₀ none w) :
    Leads scope w₀ (fun found _ => ∀ pod, found = some pod → liesIn scope.ns pod = true)
      (s.newestRound grace start w) := by
  refine (leads_quiet (quiet_pause _) h).bind fun _ w₁ h₁ _ => ?_
  refine (leads_listPods hns s.labels h₁).bind fun pods w₂ h₂ hpods => ?_
  refine (leads_quiet (keeps_ofExcept _) h₂).bind fun found w₃ h₃ hfound => ?_
  rw [ofExcept_apply] at hfound
  have hnewest : newest s.images pods = .ok found := congrArg Prod.fst hfound
  cases found with
  | some pod =>
      refine (leads_quiet (keeps_need _) h₃).bind fun status w₄ h₄ _ => ?_
      split
      · have hmem := (newestFrom_eq_some s.images hnewest).resolve_left nofun
        exact leads_some h₄ (hpods pod hmem.1)
      · split
        · exact leads_throw _ h₄
        · exact leads_none h₄
  | none =>
      refine (leads_quiet (keeps_of_idle Clock.read_apply) h₃).bind fun now w₄ h₄ _ => ?_
      exact leads_ite (leads_throw _ h₄) (leads_none h₄)

theorem leads_newestRunning (hns : s.ns = scope.ns) (grace start : Double) (rounds : Nat)
    (budget : Double) (h : Conduct scope w₀ none w) :
    Leads scope w₀ (fun pod _ => liesIn scope.ns pod = true)
      (s.newestRunning grace start rounds budget w) := by
  induction rounds generalizing budget w with
  | zero => exact leads_throw _ h
  | succ rounds ih =>
      refine (leads_newestRound hns grace start h).bind fun found w₁ h₁ hfound => ?_
      cases found with
      | some pod => exact leads_pure h₁ (hfound pod rfl)
      | none =>
          refine (leads_quiet (quiet_pause _) h₁).bind fun _ w₂ h₂ _ => ?_
          exact leads_ite (leads_throw _ h₂) (ih _ h₂)

end Search

theorem leads_afterOneRound {α : Type} {s : Search} {round : Run (Option α)} {mistake : Mistake}
    {Q : α → World → Prop}
    (hround : Leads scope w₀ (fun found w' => ∀ a, found = some a → Q a w') (round w)) :
    Leads scope w₀ Q (afterOneRound s round mistake w) := by
  refine hround.bind fun found w₁ h₁ hfound => ?_
  cases found with
  | some a => exact leads_pure h₁ (hfound a rfl)
  | none => exact (leads_quiet (quiet_pause _) h₁).bind fun _ w₂ h₂ _ => leads_throw _ h₂

theorem leads_runningPodsWithImage {s : Search} (hns : s.ns = scope.ns) (maxWait : Yaml)
    (minWait : Double) (h : Conduct scope w₀ none w) :
    Leads scope w₀ Anything (runningPodsWithImage s maxWait minWait w) := by
  unfold runningPodsWithImage
  cases Budget.ofSetting maxWait with
  | seconds budget => exact Search.leads_running hns _ _ _ h
  | vast negative =>
      cases negative with
      | true => exact leads_throw _ h
      | false =>
          have hround := Search.leads_runningRound hns minWait h
          exact leads_afterOneRound (hround.mono fun _ _ _ _ _ _ => trivial)
  | none => exact leads_throw _ h

theorem leads_newestRunningPod {s : Search} (hns : s.ns = scope.ns) (maxWait : Yaml)
    (grace : Double) (h : Conduct scope w₀ none w) :
    Leads scope w₀ (fun pod _ => liesIn scope.ns pod = true)
      (newestRunningPod s maxWait grace w) := by
  refine (leads_quiet (keeps_of_idle Clock.read_apply) h).bind fun start w₁ h₁ _ => ?_
  cases Budget.ofSetting maxWait with
  | seconds budget => exact Search.leads_newestRunning hns _ _ _ _ h₁
  | vast negative => exact leads_afterOneRound (Search.leads_newestRound hns _ _ h₁)
  | none => exact leads_afterOneRound (Search.leads_newestRound hns _ _ h₁)

variable {selector : Selector}

theorem leads_resolvePods (hns : selector.ns.orElse w₀.cluster.ns = scope.ns)
    (interval minWait : Double) (h : Conduct scope w₀ none w) :
    Leads scope w₀ Anything (resolvePods selector interval minWait w) := by
  have hmeant := h.nsOr_eq hns
  unfold resolvePods
  rw [bind_of_ok (get_apply w), hmeant]
  cases Text.nonempty selector.podName with
  | some name => exact (leads_readNamedPod name h).bind fun pod w₁ h₁ _ => leads_pure h₁ trivial
  | none => exact leads_runningPodsWithImage rfl _ _ h

theorem leads_resolveNewestPod (hns : selector.ns.orElse w₀.cluster.ns = scope.ns)
    (interval grace : Double) (h : Conduct scope w₀ none w) :
    Leads scope w₀ (fun pod _ => liesIn scope.ns pod = true)
      (resolveNewestPod selector interval grace w) := by
  have hmeant := h.nsOr_eq hns
  unfold resolveNewestPod
  rw [bind_of_ok (get_apply w), hmeant]
  cases Text.nonempty selector.podName with
  | some name => exact leads_readNamedPod name h
  | none => exact leads_newestRunningPod rfl _ _ h

theorem leads_resolveNewest {picker : Picker} (hns : selector.ns.orElse w₀.cluster.ns = scope.ns)
    (hpicker : ∀ containers, Keeps Quiet (picker containers)) (interval grace : Double)
    (h : Conduct scope w₀ none w) :
    Leads scope w₀ (fun found _ => liesIn scope.ns found.1 = true)
      (resolveNewest selector (some picker) interval grace w) := by
  refine (leads_resolveNewestPod hns interval grace h).bind fun pod w₁ h₁ hpod => ?_
  refine (leads_quiet (keeps_selectContainer pod selector hpicker) h₁).bind
    fun container w₂ h₂ _ => ?_
  exact leads_pure h₂ hpod

end Discovery

/-! ## Targets -/

theorem leads_selection (selection : Selection) (usualWait : Yaml)
    (hns : ns.orElse w₀.cluster.ns = scope.ns) (h : Conduct scope w₀ none w) :
    Leads scope w₀ (fun selector _ => selector.ns = ns) (selection.selector ns usualWait w) := by
  unfold Selection.selector
  cases Text.nonempty selection.deployment with
  | some deployment =>
      refine (Setup.leads_deploymentSelector hns deployment h).bind fun labels w₁ h₁ _ => ?_
      exact leads_pure h₁ rfl
  | none => exact leads_pure h rfl

namespace Command

open Cluster Discovery

variable {selector : Selector}

theorem leads_chooseSelector (hns : selector.ns.orElse w₀.cluster.ns = scope.ns)
    (h : Conduct scope w₀ none w) :
    Leads scope w₀ (fun chosen _ => ∀ s, chosen = some s → s.ns = selector.ns)
      (chooseSelector selector w) := by
  have hmeant := h.nsOr_eq hns
  unfold chooseSelector
  rw [bind_of_ok (get_apply w), hmeant]
  refine (leads_listPods rfl "" h).bind fun pods w₁ h₁ _ => ?_
  refine (leads_quiet (keeps_need _) h₁).bind fun statuses w₂ h₂ _ => ?_
  refine leads_ite ?_ ?_
  · exact (leads_quiet (quiet_warning _) h₂).bind fun _ w₃ h₃ _ => leads_none h₃
  · refine (leads_quiet (Pod.quiet_choose _ _) h₂).bind fun chosen w₃ h₃ _ => ?_
    cases chosen with
    | none => exact leads_none h₃
    | some pod =>
        refine (leads_quiet (keeps_need _) h₃).bind fun metadata w₄ h₄ _ => ?_
        exact leads_some h₄ rfl

theorem leads_resolveSelector (hns : selector.ns.orElse w₀.cluster.ns = scope.ns)
    (interactive : Bool) (h : Conduct scope w₀ none w) :
    Leads scope w₀ (fun found _ => liesIn scope.ns found.1 = true)
      (resolveSelector selector interactive w) := by
  refine (leads_quiet (quiet_spinner _) h).bind fun _ w₁ h₁ _ => ?_
  exact leads_resolveNewest hns (quiet_containerPicker interactive) _ _ h₁

/-- A target lies in the namespace of the scope. -/
theorem leads_resolveTarget (hns : selector.ns.orElse w₀.cluster.ns = scope.ns)
    (interactive : Bool) (h : Conduct scope w₀ none w) :
    Leads scope w₀ (fun target _ => ∀ found, target = some found → liesIn scope.ns found.1 = true)
      (resolveTarget selector interactive w) := by
  unfold resolveTarget
  refine leads_ite ?_ ?_
  · refine (leads_chooseSelector hns h).bind fun chosen w₁ h₁ hchosen => ?_
    cases chosen with
    | none => exact leads_none h₁
    | some s =>
        have hs : s.ns.orElse w₀.cluster.ns = scope.ns := by rw [hchosen s rfl, hns]
        exact (leads_resolveSelector hs interactive h₁).bind fun found w₂ h₂ hfound =>
          leads_some h₂ hfound
  · exact (leads_resolveSelector hns interactive h).bind fun found w₁ h₁ hfound =>
      leads_some h₁ hfound

/-- A target is reached in the namespace of the scope. -/
theorem leads_reachableTarget (hhome : w₀.cluster.ns = scope.ns)
    (hns : selector.ns.orElse w₀.cluster.ns = scope.ns) (interactive : Bool)
    (h : Conduct scope w₀ none w) :
    Leads scope w₀ (fun target _ => ∀ found, target = some found → found.1.Belongs scope w₀)
      (resolveTarget selector interactive w) :=
  (leads_resolveTarget hns interactive h).mono fun _ _ _ htarget found hfound =>
    Pod.belongs_of_liesIn hhome (htarget found hfound)

end Command

/-! ## Sessions and logs -/

namespace Session

variable {pod : Pod}

/-- A session that cannot be opened is told so. -/
theorem leads_openSession (hpod : pod.Belongs scope w₀) (container : Container)
    (command : Option (List String)) (h : Conduct scope w₀ none w) :
    Leads scope w₀ Anything (openSession pod container command w) := by
  unfold openSession
  refine (leads_quiet (quiet_openFile logName) h).bind fun _ w' h' _ => ?_
  rw [bind_of_ok (get_apply w')]
  refine leads_when (quiet_warnUnlessInteractive container) h' fun w₁ h₁ => ?_
  refine (leads_quiet (keeps_need _) h₁).bind fun metadata w₂ h₂ hmetadata => ?_
  rw [bind_of_ok (get_apply w₂), h₂.ns_eq, hpod metadata (need_eq_ok hmetadata).1]
  refine (leads_quiet (quiet_info _) h₂).bind fun _ w₃ h₃ _ => ?_
  refine (leads_quiet (quiet_line "[dim]" (by simp) (by decide)) h₃).bind fun _ w₄ h₄ _ => ?_
  have hanswered := answered_of_isCall (isCall_openStream metadata.name container.name command
    (wantsTerminal w'.stdin container (command.getD []))) rfl (Scope.allows_of_ns rfl rfl nofun) h₄
  rw [bind_of_ok (attempt_apply _ w₄)]
  generalize Cluster.openStream metadata.name scope.ns container.name command
    (wantsTerminal w'.stdin container (command.getD [])) w₄ = run at hanswered ⊢
  cases hanswered with
  | done conduct => exact leads_pure conduct trivial
  | @refused fault w₅ told tolerated =>
      by_cases hexpected : expectedOnOpen fault = true
      · have hfailed := told (.failed (.cannotConnect (Text.orNone metadata.name)
          (Text.orNone container.name) fault.detail)) (by simp [Call.Tells, hexpected])
        simp only [hexpected, if_true]
        rw [bind_of_ok (Log.write_apply _ _ _)]
        exact hfailed.quiet
          (.noted w₅ (by simp [Entry.isQuiet, Entry.clusterCall?, Entry.isReport]))
      · simp only [hexpected]
        exact told _ (by simp [Call.Tells, hexpected])
  | @spoiled halt w₅ unrefused conduct =>
      cases halt with
      | fault fault => exact absurd rfl (unrefused fault)
      | _ => exact conduct.ends _

theorem leads_attach (hpod : pod.Belongs scope w₀) (container : Container)
    (command : Option (List String)) (h : Conduct scope w₀ none w) :
    Leads scope w₀ Anything (attach pod container command w) := by
  refine (leads_openSession hpod container command h).bind fun opened w₁ h₁ _ => ?_
  refine (leads_quiet (quiet_logOpened _ _) h₁).bind fun _ w₂ h₂ _ => ?_
  refine (leads_quiet (quiet_beginSession _ _) h₂).bind fun _ w₃ h₃ _ => ?_
  exact (leads_quiet ((quiet_runSession _ _ _).always (quiet_endSession _)) h₃).anything

/-- What a log cannot be read for is the end of its lines. -/
theorem logLines_conduct (hpod : pod.Belongs scope w₀) (container : Option String) (follow : Bool)
    (tail : Yaml) (h : Conduct scope w₀ none w) :
    (∃ halt w', logLines pod container follow tail w = (.error halt, w') ∧
      Conduct scope w₀ (some halt) w') ∨
    (∃ lines ending w', logLines pod container follow tail w = (.ok (lines, ending), w') ∧
      Conduct scope w₀ none w') ∨
    ∃ halt w', logLines pod container follow tail w = (.ok ([], some halt), w') ∧
      Conduct scope w₀ (some halt) w' := by
  unfold logLines
  cases hmetadata : pod.metadata with
  | none => exact Or.inl ⟨_, w, rfl, h.ends _⟩
  | some metadata =>
      rw [bind_of_ok (need_some metadata w), bind_of_ok (get_apply w), h.ns_eq,
        hpod metadata hmetadata]
      have hanswered := answered_of_isCall (isCall_readLog metadata.name container follow tail) rfl
        (Scope.allows_of_ns rfl rfl nofun) h
      rw [bind_of_ok (attempt_apply _ w)]
      generalize Cluster.readLog metadata.name scope.ns container follow tail w = run
        at hanswered ⊢
      cases hanswered with
      | done conduct => exact Or.inr (Or.inl ⟨_, _, _, rfl, conduct⟩)
      | refused told tolerated => exact Or.inr (Or.inr ⟨_, _, rfl, told _ rfl⟩)
      | @spoiled halt w' unrefused conduct =>
          cases halt with
          | fault fault => exact absurd rfl (unrefused fault)
          | _ => exact Or.inr (Or.inl ⟨_, _, _, rfl, conduct⟩)

end Session

/-! ## The commands -/

namespace Command

open Cluster Session Discovery

variable {selector : Selector}

theorem leads_attachToPod (hhome : w₀.cluster.ns = scope.ns)
    (hns : selector.ns.orElse w₀.cluster.ns = scope.ns) (h : Conduct scope w₀ none w) :
    Leads scope w₀ Anything (attachToPod selector w) := by
  refine (leads_reachableTarget hhome hns true h).bind fun target w₁ h₁ htarget => ?_
  cases target with
  | none => exact leads_pure h₁ trivial
  | some found =>
      have hpod := htarget found rfl
      refine (leads_attach hpod found.2 none h₁).bind fun _ w₂ h₂ _ => ?_
      exact (leads_quiet (quiet_line "\n[dim]" (by simp [toString]) (by decide)) h₂).anything

theorem leads_shellIntoPod (hhome : w₀.cluster.ns = scope.ns)
    (hns : selector.ns.orElse w₀.cluster.ns = scope.ns) (command : List String) (shell : Yaml)
    (h : Conduct scope w₀ none w) :
    Leads scope w₀ Anything (shellIntoPod selector command shell w) := by
  refine (leads_reachableTarget hhome hns true h).bind fun target w₁ h₁ htarget => ?_
  cases target with
  | none => exact leads_pure h₁ trivial
  | some found =>
      have hpod := htarget found rfl
      refine (leads_quiet (keeps_ofExcept _) h₁).bind fun words w₂ h₂ _ => ?_
      refine (leads_quiet (quiet_line "[dim]" (by simp [toString]) (by decide)) h₂).bind
        fun _ w₃ h₃ _ => ?_
      refine (leads_attach hpod found.2 (some words) h₃).bind fun first w₄ h₄ _ => ?_
      have hlast (code : Option Int) {w₅ : World} (h₅ : Conduct scope w₀ none w₅) :
          Leads scope w₀ Anything ((do
            let name := Text.orNone found.1.name?
            Console.line s!"\n[dim]主人，已退出容器 {name}[/dim]"
            return code : Run (Option Int)) w₅) :=
        (leads_quiet (quiet_line "\n[dim]" (by simp [toString]) (by decide)) h₅).bind
          fun _ w₆ h₆ _ => leads_pure h₆ trivial
      refine leads_ite ?_ (hlast first h₄)
      exact (leads_attach hpod found.2 _ h₄).bind fun code w₅ h₅ _ => hlast code h₅

/-- Reading the lines of a log and printing them. -/
theorem leads_printedLines {pod : Pod} (hpod : pod.Belongs scope w₀) (container : Option String)
    (follow : Bool) (tail : Yaml) (h : Conduct scope w₀ none w) :
    Leads scope w₀ Anything ((do
      let (lines, ending) ← logLines pod container follow tail
      lines.forM printLine
      match ending with
      | some halt => throw halt
      | none => return lines.length : Run Nat) w) := by
  obtain ⟨halt, w', hlog, h'⟩ | ⟨lines, ending, w', hlog, h'⟩ | ⟨halt, w', hlog, h'⟩ :=
    logLines_conduct hpod container follow tail h
  · rw [bind_of_error hlog]
    exact h'
  · rw [bind_of_ok hlog]
    refine (leads_quiet (keeps_forM fun line _ => quiet_printLine line) h').bind
      fun _ w₁ h₁ _ => ?_
    cases ending with
    | some halt => exact leads_throw halt h₁
    | none => exact leads_pure h₁ trivial
  · rw [bind_of_ok hlog]
    exact h'

theorem leads_viewLogs (hhome : w₀.cluster.ns = scope.ns)
    (hns : selector.ns.orElse w₀.cluster.ns = scope.ns) (follow : Bool) (tail : Yaml)
    (h : Conduct scope w₀ none w) : Leads scope w₀ Anything (viewLogs selector follow tail w) := by
  refine (leads_reachableTarget hhome hns true h).bind fun target w₁ h₁ htarget => ?_
  cases target with
  | none => exact leads_pure h₁ trivial
  | some found =>
      have hpod := htarget found rfl
      refine leads_ite ?_ ?_
      all_goals
        refine (leads_quiet (quiet_info _) h₁).bind fun _ w₂ h₂ _ => ?_
        refine (leads_quiet quiet_emptyLine h₂).bind fun _ w₃ h₃ _ => ?_
        refine (leads_printedLines hpod _ follow tail h₃).attempt_bind (fun count w₄ h₄ _ => ?_)
          fun halt w₄ h₄ => ?_
        · exact leads_ite (leads_quiet (quiet_warning _) h₄).anything (leads_pure h₄ trivial)
        · cases halt with
          | interrupted =>
              exact (leads_quiet (quiet_line "\n[dim]" (by simp) (by decide))
                h₄.of_interrupted).anything
          | _ => exact h₄

theorem leads_listPodsOf (hns : ns.orElse w₀.cluster.ns = scope.ns) (labels : String)
    (deployment : Option String) (h : Conduct scope w₀ none w) :
    Leads scope w₀ Anything (listPodsOf ns labels deployment w) := by
  have hshow (pods : List Pod) {w₁ : World} (h₁ : Conduct scope w₀ none w₁) :
      Leads scope w₀ Anything ((if pods.isEmpty then Console.warning "当前命名空间下没有任何 Pod"
        else do
          let sorted ← MonadExcept.ofExcept (sortByName pods)
          Pod.showTable sorted s!"Pods ({scope.ns.shown})"
          warnAboutBroken sorted : Run Unit) w₁) := by
    refine leads_ite (leads_quiet (quiet_warning _) h₁).anything ?_
    refine (leads_quiet (keeps_ofExcept _) h₁).bind fun sorted w₂ h₂ _ => ?_
    refine (leads_quiet (Pod.quiet_showTable _ _) h₂).bind fun _ w₃ h₃ _ => ?_
    exact (leads_quiet (quiet_warnAboutBroken _) h₃).anything
  refine (Setup.leads_nsOr hns h).bind ?_
  rintro name w₁ h₁ rfl
  have hagain := Yaml.orElse_of_orElse hns
  refine (leads_quiet (quiet_info _) h₁).bind fun _ w₂ h₂ _ => ?_
  refine (leads_quiet quiet_emptyLine h₂).bind fun _ w₃ h₃ _ => ?_
  cases Text.nonempty deployment with
  | some deployment =>
      refine (Setup.leads_deploymentPods hagain deployment h₃).bind fun pods w₄ h₄ _ => ?_
      exact hshow pods h₄
  | none => exact (leads_listPods rfl labels h₃).bind fun pods w₄ h₄ _ => hshow pods h₄

theorem leads_waitForPods (hns : selector.ns.orElse w₀.cluster.ns = scope.ns)
    (h : Conduct scope w₀ none w) : Leads scope w₀ Anything (waitForPods selector w) := by
  refine (leads_quiet (quiet_spinner _) h).bind fun _ w₁ h₁ _ => ?_
  refine (leads_resolvePods hns _ _ h₁).bind fun pods w₂ h₂ _ => ?_
  refine leads_ite ?_ ?_
  · exact (leads_quiet (quiet_warning _) h₂).bind fun _ w₃ h₃ _ => leads_pure h₃ trivial
  · refine (leads_quiet (quiet_success _) h₂).bind fun _ w₃ h₃ _ => ?_
    exact (leads_quiet (Pod.quiet_showTable _ _) h₃).bind fun _ w₄ h₄ _ => leads_pure h₄ trivial

theorem leads_initCluster (hns : ns.orElse w₀.cluster.ns = scope.ns) (secrets : List String)
    (h : Conduct scope w₀ none w) : Leads scope w₀ Anything (initCluster ns secrets w) := by
  refine (Setup.leads_nsOr hns h).bind ?_
  rintro name w₁ h₁ rfl
  have hagain := Yaml.orElse_of_orElse hns
  refine (Setup.leads_ensureNamespace hagain h₁).bind fun _ w₂ h₂ _ => ?_
  refine (Setup.leads_ensureBinding Setup.quiet_cloudAccount h₂).bind fun _ w₃ h₃ _ => ?_
  have hready {w₄ : World} (h₄ : Conduct scope w₀ none w₄) : Leads scope w₀ Anything
      (Console.success s!"命名空间 {scope.ns.shown} 已准备就绪" w₄) :=
    (leads_quiet (quiet_success _) h₄).anything
  refine leads_ite ?_ (hready h₃)
  refine (Setup.leads_addPullSecrets hagain secrets "default" h₃).bind fun changed w₄ h₄ _ => ?_
  refine leads_ite ?_ ?_
  · exact (leads_quiet (quiet_success _) h₄).bind fun _ w₅ h₅ _ => hready h₅
  · exact (leads_quiet (quiet_info _) h₄).bind fun _ w₅ h₅ _ => hready h₅

end Command

end Conduct

end PodReach
