import PodReach.Proofs.Forward.Conduct

/-!
# The conduct of a task

A task first builds the client and then acts in the namespace that the client falls back on: the one
of the settings, or else its own. From there on it is in good conduct. What becomes of its outcome
is decided around it, where an expected halt is shown in one line and turned into an exit code.
-/

namespace PodReach

open Run World

namespace Yaml

/-- Falling back on a fallback is falling back once. -/
theorem orElse_orElse_self (value other : Yaml) :
    value.orElse (value.orElse other) = value.orElse other := by
  by_cases h : value.truthy = true <;> simp [orElse, h]

end Yaml

namespace Program

open CommandLine Command

variable {s : Settings} {task : Task} {w w' : World}

/-! ## The client -/

/-- The world once the client is built. -/
def Settings.connected (s : Settings) (w : World) : World :=
  (w.noted [.connected s.ns s.context s.kubeconfig]).withCluster
    { w.cluster with ns := s.ns.orElse w.cluster.ns }

theorem connect_apply (s : Settings) (w : World) : s.connect w =
    if w.cluster.unconfigured then
      (.error .noClusterConfig, w.noted [.connected s.ns s.context s.kubeconfig])
    else (.ok (), s.connected w) := by
  unfold Settings.connect
  rw [bind_of_ok (record_apply _ w), bind_of_ok (get_apply _)]
  change (if w.cluster.unconfigured then (throw .noClusterConfig >>= fun _ => _) else _ : Run Unit)
    _ = _
  split <;> rfl

/-- Without a cluster nothing is done. -/
theorem perform_of_unconfigured (s : Settings) (task : Task)
    (h : w.cluster.unconfigured = true) : perform s task w =
      (.error .noClusterConfig, w.noted [.connected s.ns s.context s.kubeconfig]) := by
  have hconnect : s.connect w =
      (.error .noClusterConfig, w.noted [.connected s.ns s.context s.kubeconfig]) := by
    rw [connect_apply, if_pos h]
  cases task with
  | pods labels deployment => exact bind_of_error hconnect
  | init secrets => exact bind_of_error hconnect
  | _ => exact bind_of_error (bind_of_error hconnect)

/-! ## Conduct -/

section Configured

variable (hconfigured : w.cluster.unconfigured = false)
include hconfigured

theorem connect_of_configured (s : Settings) : s.connect w = (.ok (), s.connected w) := by
  rw [connect_apply, hconfigured]
  rfl

theorem leads_connect (s : Settings) : Leads ⟨s.ns.orElse w.cluster.ns, false⟩ (s.connected w)
    Anything (s.connect w) := by
  rw [connect_of_configured hconfigured]
  exact ⟨.start _ _, trivial⟩

theorem leads_prepare (s : Settings) (selection : Selection) :
    Leads ⟨s.ns.orElse w.cluster.ns, false⟩ (s.connected w)
      (fun selector _ => selector.ns.orElse (s.connected w).cluster.ns = s.ns.orElse w.cluster.ns)
      (prepare s selection w) := by
  have hns : s.ns.orElse (s.connected w).cluster.ns = s.ns.orElse w.cluster.ns :=
    Yaml.orElse_orElse_self s.ns w.cluster.ns
  refine (leads_connect hconfigured s).bind fun _ w₁ h₁ _ => ?_
  refine (leads_selection selection _ hns h₁).mono fun selector w₂ _ hselector => ?_
  rw [hselector, hns]

/-- A task is in good conduct once the client is built, in the namespace that the client falls back
on, and it tells when the pod of its tunnels was lost. -/
theorem perform_conduct (s : Settings) (task : Task) :
    Leads ⟨s.ns.orElse w.cluster.ns, true⟩ (s.connected w) Anything (perform s task w) ∧
      TellsLoss (s.connected w) (perform s task w) := by
  have hns : s.ns.orElse (s.connected w).cluster.ns = s.ns.orElse w.cluster.ns :=
    Yaml.orElse_orElse_self s.ns w.cluster.ns
  have hprepared := leads_prepare hconfigured s
  cases task with
  | pods labels deployment =>
      refine forwarded_of_leads ((leads_connect hconfigured s).bind fun _ w₁ h₁ _ => ?_)
      exact (leads_listPodsOf hns labels deployment h₁).bind fun _ w₂ h₂ _ => leads_pure h₂ trivial
  | attach selection =>
      refine forwarded_of_leads ((hprepared selection).bind fun selector w₁ h₁ hselector => ?_)
      exact (leads_attachToPod rfl hselector h₁).bind fun _ w₂ h₂ _ => leads_pure h₂ trivial
  | exec selection command =>
      refine forwarded_of_leads ((hprepared selection).bind fun selector w₁ h₁ hselector => ?_)
      exact (leads_shellIntoPod rfl hselector _ _ h₁).bind fun _ w₂ h₂ _ => leads_pure h₂ trivial
  | logs selection follow tail =>
      refine forwarded_of_leads ((hprepared selection).bind fun selector w₁ h₁ hselector => ?_)
      exact (leads_viewLogs rfl hselector _ _ h₁).bind fun _ w₂ h₂ _ => leads_pure h₂ trivial
  | portForward selection ports addresses =>
      refine forwarded_bind (hprepared selection) fun selector w₁ h₁ hselector => ?_
      exact forwarded_map (leads_forwardPorts rfl hselector _ _ h₁)
  | wait selection =>
      refine forwarded_of_leads ((hprepared selection).bind fun selector w₁ h₁ hselector => ?_)
      exact (leads_waitForPods hselector h₁).bind fun _ w₂ h₂ _ => leads_pure h₂ trivial
  | init secrets =>
      refine forwarded_of_leads ((leads_connect hconfigured s).bind fun _ w₁ h₁ _ => ?_)
      exact (leads_initCluster hns secrets h₁).bind fun _ w₂ h₂ _ => leads_pure h₂ trivial

end Configured

/-! ## Exit codes -/

/-- What is shown about a halt that a command may end with, and the exit code that it becomes. -/
def shown? : Halt → Option (String × Int)
  | .failed failure =>
    let message := failure.message
    some (s!"[red]❌ 主人，{message}[/red]", Ending.failureCode)
  | .fault (.api status reason) =>
    let why := Fault.reasonText reason
    let message := s!"Kubernetes API 错误: {status} {why}"
    some (s!"[red]❌ 主人，{message}[/red]", Ending.failureCode)
  | .interrupted => some ("\n[dim]操作已中断[/dim]", Ending.interruptCode)
  | _ => none

/-- Show a line and end with an exit code. -/
def endingIn (text : String) (code : Int) : Run Int := do
  Console.line text
  return code

theorem guarded_apply (command : Run Int) (w : World) : guarded command w =
    match command w with
    | (.ok code, w') => (.ok code, w')
    | (.error halt, w') =>
      match shown? halt with
      | some (text, code) => endingIn text code w'
      | none => (.error halt, w') := by
  unfold guarded
  rw [bind_of_ok (attempt_apply command w)]
  rcases command w with ⟨halt | code, w'⟩
  · cases halt with
    | fault fault => cases fault <;> rfl
    | _ => rfl
  · rfl

/-- What showing a line comes to that is to end in an exit code: the line appears, and an interrupt
may follow it, or it cannot be rendered and nothing is shown. -/
inductive Told (w : World) (text : String) (code : Int) : Except Halt Int × World → Prop
  | shown {w' : World} (written : w'.journal.toList = w.journal.toList ++ [.display (.line text)]) :
      Told w text code (.ok code, w')
  | startled {w' : World}
      (written : w'.journal.toList = w.journal.toList ++ [.display (.line text)])
      (awaited : w.interruptOn ≠ none) : Told w text code (.error .interrupted, w')
  | unrendered (h : w.markup.renders text = false) :
      Told w text code (.error (.unrendered text), w)

theorem told_endingIn (text : String) (code : Int) (w : World) :
    Told w text code (endingIn text code w) := by
  unfold endingIn
  cases hrenders : w.markup.renders text with
  | false =>
      rw [bind_of_error (line_of_unrendered hrenders)]
      exact .unrendered hrenders
  | true =>
      have hline := line_apply text w
      rw [if_pos hrenders] at hline
      by_cases hstartled : w.interruptOn.any (Text.contains text) = true
      · rw [bind_of_error (hline.trans (if_pos hstartled))]
        refine .startled (journal_noted w _) fun halarm => ?_
        rw [halarm] at hstartled
        cases hstartled
      · rw [bind_of_ok (hline.trans (if_neg hstartled))]
        exact .shown (journal_noted w _)

end Program

end PodReach
