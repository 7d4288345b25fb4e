import PodReach.Command.Pods
import PodReach.Proofs.World.Conduct

/-!
# The conduct of the preparations

A function that takes a namespace falls back on that of the client, and so do the functions that it
calls in turn. Falling back twice is falling back once, so all of them ask about the same one. What
they pass over is that an object does not exist yet, that it exists by now, and that a service
account cannot be read.
-/

namespace PodReach

open Run World

namespace Yaml

theorem orElse_self (value : Yaml) : value.orElse value = value := by
  unfold orElse
  split <;> rfl

/-- Falling back twice is falling back once. -/
theorem orElse_orElse (value other : Yaml) :
    (value.orElse other).orElse other = value.orElse other := by
  by_cases h : value.truthy = true
  · simp [orElse, h]
  · rw [show value.orElse other = other by simp [orElse, h]]
    exact orElse_self other

theorem orElse_of_orElse {value other result : Yaml} (h : value.orElse other = result) :
    result.orElse other = result := by
  rw [← h, orElse_orElse]

end Yaml

namespace Setup

open Cluster

variable {scope : Scope} {w₀ w : World} {ns : Yaml}

theorem nsOr_apply (ns : Yaml) (w : World) : nsOr ns w = (.ok (ns.orElse w.cluster.ns), w) :=
  rfl

/-- The namespace that is meant is the one of the scope. -/
theorem leads_nsOr (hns : ns.orElse w₀.cluster.ns = scope.ns) (h : Conduct scope w₀ none w) :
    Leads scope w₀ (fun name _ => name = scope.ns) (nsOr ns w) := by
  rw [nsOr_apply, h.ns_eq, hns]
  exact ⟨h, rfl⟩

/-- A status that is expected of a call is passed over, and every other refusal is told. -/
theorem leads_doneUnless {expected : Int} {action : Run Unit} {call : Call}
    (hcall : IsCall call action) (hservice : call.service?.isSome = true)
    (hallowed : scope.Allows call) (htells : ∀ fault, call.Tells fault (.fault fault))
    (htolerates : ∀ before reason, call.Tolerates before (.api expected reason))
    (h : Conduct scope w₀ none w) : Leads scope w₀ Anything (doneUnless expected action w) := by
  have hanswered := answered_of_isCall hcall hservice hallowed h
  unfold doneUnless
  rw [bind_of_ok (attempt_apply action w)]
  generalize action w = run at hanswered ⊢
  cases hanswered with
  | done conduct => exact leads_pure conduct trivial
  | @refused fault w' told tolerated =>
      cases fault with
      | api status reason =>
          dsimp only
          split
          next hstatus => exact leads_pure (tolerated (hstatus ▸ htolerates _ reason)) trivial
          next => exact told _ (htells _)
      | _ => exact told _ (htells _)
  | @spoiled halt w' unrefused conduct =>
      cases halt with
      | fault fault => exact absurd rfl (unrefused fault)
      | _ => exact conduct.ends _

theorem leads_ensureNamespace (hns : ns.orElse w₀.cluster.ns = scope.ns)
    (h : Conduct scope w₀ none w) : Leads scope w₀ Anything (ensureNamespace ns w) := by
  refine (leads_nsOr hns h).bind ?_
  rintro name w₁ h₁ rfl
  refine (leads_doneUnless (isCall_readNamespace _) rfl (Scope.allows_of_ns rfl rfl nofun)
    (fun _ => rfl) (fun _ _ => rfl) h₁).bind fun found w₂ h₂ _ => ?_
  split
  · refine (leads_doneUnless (isCall_createNamespace _) rfl (Scope.allows_of_ns rfl rfl nofun)
      (fun _ => rfl) (fun _ _ => rfl) h₂).bind fun created w₃ h₃ _ => ?_
    split
    · exact (leads_quiet (quiet_success _) h₃).anything
    · exact leads_pure h₃ trivial
  · exact leads_pure h₂ trivial

theorem leads_ensureBinding {account : Run String} (haccount : Keeps Quiet account)
    (h : Conduct scope w₀ none w) : Leads scope w₀ Anything (ensureBinding account w) := by
  refine (leads_get h).bind fun v w₁ h₁ _ => ?_
  split
  · refine (leads_doneUnless (isCall_readBinding _) rfl (Scope.allows_of_none rfl nofun)
      (fun _ => rfl) (fun _ _ => rfl) h₁).bind fun found w₂ h₂ _ => ?_
    split
    · refine (leads_get h₂).bind fun v w₃ h₃ _ => ?_
      split
      · refine (leads_quiet haccount h₃).bind fun user w₄ h₄ _ => ?_
        split
        · exact leads_throw _ h₄
        · refine (leads_doneUnless (isCall_createBinding _) rfl (Scope.allows_of_none rfl nofun)
            (fun _ => rfl) (fun _ _ => rfl) h₄).bind fun created w₅ h₅ _ => ?_
          split
          · exact (leads_quiet (quiet_success _) h₅).anything
          · exact leads_pure h₅ trivial
      · exact leads_pure h₃ trivial
    · exact leads_pure h₂ trivial
  · exact leads_pure h₁ trivial

theorem quiet_cloudAccount : Keeps Quiet cloudAccount :=
  (quiet_runProcess _ _).bind fun _ => keeps_pure _

/-- A service account that cannot be read is passed over. -/
theorem leads_addPullSecrets (hns : ns.orElse w₀.cluster.ns = scope.ns) (secrets : List String)
    (account : String) (h : Conduct scope w₀ none w) :
    Leads scope w₀ Anything (addPullSecrets secrets ns account w) := by
  refine (leads_nsOr hns h).bind ?_
  rintro name w₁ h₁ rfl
  have hanswered := answered_of_isCall (isCall_readServiceAccount account) rfl
    (Scope.allows_of_ns rfl rfl nofun) h₁
  rw [bind_of_ok (attempt_apply (readServiceAccount account scope.ns) w₁)]
  generalize readServiceAccount account scope.ns w₁ = run at hanswered ⊢
  cases hanswered with
  | @done found w₂ conduct =>
      refine leads_ite (leads_pure conduct trivial) ?_
      refine (leads_call (isCall_patchServiceAccount account _) rfl
        (Scope.allows_of_ns rfl rfl nofun) (fun _ => rfl) conduct).bind fun _ w₃ h₃ _ => ?_
      exact leads_pure h₃ trivial
  | @refused fault w₂ told tolerated =>
      cases fault with
      | api status reason =>
          refine (leads_quiet (quiet_log _ _) (tolerated trivial)).bind fun _ w₃ h₃ _ => ?_
          exact leads_pure h₃ trivial
      | _ => exact told _ rfl
  | @spoiled halt w₂ unrefused conduct =>
      cases halt with
      | fault fault => exact absurd rfl (unrefused fault)
      | _ => exact conduct.ends _

theorem leads_deploymentSelector (hns : ns.orElse w₀.cluster.ns = scope.ns) (deployment : String)
    (h : Conduct scope w₀ none w) :
    Leads scope w₀ Anything (deploymentSelector deployment ns w) := by
  refine (leads_nsOr hns h).bind ?_
  rintro name w₁ h₁ rfl
  refine (leads_call (isCall_readDeployment deployment) rfl (Scope.allows_of_ns rfl rfl nofun)
    (fun _ => rfl) h₁).bind fun found w₂ h₂ _ => ?_
  rcases found.matchLabels with _ | _ | ⟨label, rest⟩
  · exact leads_throw _ h₂
  · exact leads_throw _ h₂
  · exact leads_pure h₂ trivial

theorem leads_deploymentPods (hns : ns.orElse w₀.cluster.ns = scope.ns) (deployment : String)
    (h : Conduct scope w₀ none w) : Leads scope w₀ Anything (deploymentPods deployment ns w) := by
  refine (leads_nsOr hns h).bind ?_
  rintro name w₁ h₁ rfl
  have hagain := Yaml.orElse_of_orElse hns
  refine (leads_deploymentSelector hagain deployment h₁).bind fun labels w₂ h₂ _ => ?_
  exact (leads_listPods rfl labels h₂).anything

end Setup

end PodReach
