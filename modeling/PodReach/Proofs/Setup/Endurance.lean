import PodReach.Proofs.World.Endurance
import PodReach.Setup

/-!
# What can come of preparing a namespace in a sound world

Whatever exists already is passed over, and whatever else a call is answered with is raised as it
is. A namespace is looked up by its name, so it has to be something that can be a key.
-/

namespace PodReach

open Run

theorem Yaml.hashable_orElse {value other : Yaml} (h : value.hashable = true)
    (hother : other.hashable = true) : (value.orElse other).hashable = true := by
  unfold orElse
  split
  · exact h
  · exact hother

/-! ## Calls -/

namespace Cluster

variable {w₀ : World} {name ns : Yaml}

/-- A request to a service whose faults are raised, about something that can be looked up. -/
theorem endures_requestNamed {α : Type} {P : α → Prop} {service : Service} {call : Call}
    {next : Run α} (hraw : ∀ fault, service.absorbs fault = false) (h : name.hashable = true)
    (hnext : Endures w₀ (Tolerable w₀) P next) : Endures w₀ (Tolerable w₀) P
      (do request service call; lookupName name; next) :=
  (endures_requestRaw hraw (fun _ => .raised) call).bind fun _ _ =>
    (endures_lookupName h).bind fun _ _ => hnext

theorem endures_readNamespace (h : name.hashable = true) :
    Endures w₀ (Tolerable w₀) Whatever (readNamespace name) := by
  refine endures_requestNamed (fun _ => rfl) h (endures_get.bind fun w _ => ?_)
  split
  · exact endures_pure trivial
  · exact endures_throw (.raised (.answered _ _))

theorem endures_createNamespace (h : name.hashable = true) :
    Endures w₀ (Tolerable w₀) Whatever (createNamespace name) := by
  refine endures_requestNamed (fun _ => rfl) h (endures_get.bind fun w _ => ?_)
  split
  · exact endures_throw (.raised (.answered _ _))
  · refine endures_update_objects (fun c => ?_) fun c => ?_
    · exact ⟨rfl, rfl, rfl, rfl, rfl, List.suffix_refl _⟩
    · rfl

theorem endures_readBinding (name : String) :
    Endures w₀ (Tolerable w₀) Whatever (readBinding name) := by
  refine (endures_requestRaw (fun _ => rfl) (fun _ => .raised) _).bind fun _ _ => ?_
  refine endures_get.bind fun w _ => ?_
  split
  · exact endures_pure trivial
  · exact endures_throw (.raised (.answered _ _))

theorem endures_createBinding (body : Json) :
    Endures w₀ (Tolerable w₀) Whatever (createBinding body) := by
  refine (endures_requestRaw (fun _ => rfl) (fun _ => .raised) _).bind fun _ _ => ?_
  refine endures_get.bind fun w _ => ?_
  split
  · exact endures_throw (.raised (.answered _ _))
  · refine endures_update_objects (fun c => ?_) fun c => ?_
    · exact ⟨rfl, rfl, rfl, rfl, rfl, List.suffix_refl _⟩
    · rfl

theorem endures_readDeployment (deployment : String) (h : ns.hashable = true) :
    Endures w₀ (Tolerable w₀) Whatever (readDeployment deployment ns) := by
  refine endures_requestNamed (fun _ => rfl) h (endures_get.bind fun w _ => ?_)
  exact endures_found (fun _ => .raised) fun _ _ => trivial

theorem endures_readServiceAccount (account : String) (h : ns.hashable = true) :
    Endures w₀ (Tolerable w₀) Whatever (readServiceAccount account ns) := by
  refine endures_requestNamed (fun _ => rfl) h (endures_get.bind fun w _ => ?_)
  exact endures_found (fun _ => .raised) fun _ _ => trivial

theorem endures_patchServiceAccount (account : String) (h : ns.hashable = true) (body : Json) :
    Endures w₀ (Tolerable w₀) Whatever (patchServiceAccount account ns body) := by
  refine endures_requestNamed (fun _ => rfl) h (endures_update_objects (fun c => ?_) fun c => ?_)
  · exact ⟨rfl, rfl, rfl, rfl, rfl, List.suffix_refl _⟩
  · rfl

end Cluster

/-! ## Preparations -/

namespace Setup

variable {w₀ : World} {ns : Yaml}

theorem endures_nsOr {E : Halt → Prop} (h : ns.hashable = true) :
    Endures w₀ E (fun name => name.hashable = true) (nsOr ns) :=
  endures_get.bind fun _ hw => endures_pure (Yaml.hashable_orElse h hw.ns)

/-- One answer is expected, and any other one is raised. -/
theorem endures_doneUnless (expected : Int) {action : Run Unit}
    (h : Endures w₀ (Tolerable w₀) Whatever action) :
    Endures w₀ (Tolerable w₀) Whatever (doneUnless expected action) := by
  refine h.attempt.bind fun outcome houtcome => ?_
  split
  · exact endures_pure trivial
  · split
    · exact endures_pure trivial
    · exact endures_throw (.raised (.answered _ _))
  · exact endures_throw houtcome

theorem endures_ensureNamespace (h : ns.hashable = true) :
    Endures w₀ (Tolerable w₀) Whatever (ensureNamespace ns) := by
  refine (endures_nsOr h).bind fun name hname => ?_
  refine (endures_doneUnless 404 (Cluster.endures_readNamespace hname)).bind fun _ _ => ?_
  split
  · refine (endures_doneUnless 409 (Cluster.endures_createNamespace hname)).bind fun _ _ => ?_
    split
    · exact endures_line _
    · exact endures_pure trivial
  · exact endures_pure trivial

/-- The account is asked for by a command that has a name. -/
theorem endures_cloudAccount {E : Halt → Prop} : Endures w₀ E Whatever cloudAccount := by
  have hprocess {name : String} {words : List String} {timeout : Yaml} :
      Endures w₀ E Whatever (runProcess (name :: words) timeout) := by
    refine (endures_record _).bind fun _ _ => endures_get.bind fun w _ => ?_
    split <;> exact endures_pure trivial
  exact hprocess.bind fun _ _ => endures_pure trivial

theorem endures_ensureBinding {account : Run String}
    (h : Endures w₀ (Tolerable w₀) Whatever account) :
    Endures w₀ (Tolerable w₀) Whatever (ensureBinding account) := by
  have hcreated (user : String) : Endures w₀ (Tolerable w₀) Whatever
      (createdBy (Cluster.createBinding (bindingBody user))) :=
    endures_doneUnless 409 (Cluster.endures_createBinding _)
  refine endures_get.bind fun w _ => ?_
  split
  · refine (endures_doneUnless 404 (Cluster.endures_readBinding _)).bind fun _ _ => ?_
    split
    · refine endures_get.bind fun w _ => ?_
      split
      · refine h.bind fun user _ => ?_
        split
        · exact endures_throw (.failed _)
        · refine (hcreated user).bind fun _ _ => ?_
          split
          · exact endures_line _
          · exact endures_pure trivial
      · exact endures_pure trivial
    · exact endures_pure trivial
  · exact endures_pure trivial

theorem endures_deploymentSelector (deployment : String) (h : ns.hashable = true) :
    Endures w₀ (Tolerable w₀) Whatever (deploymentSelector deployment ns) := by
  refine (endures_nsOr h).bind fun name hname => ?_
  refine (Cluster.endures_readDeployment deployment hname).bind fun found _ => ?_
  split
  · exact endures_pure trivial
  · exact endures_throw (.failed _)

theorem endures_deploymentPods (deployment : String) (h : ns.hashable = true) :
    Endures w₀ (Tolerable w₀) (fun pods => ∀ pod ∈ pods, pod.Reported)
      (deploymentPods deployment ns) := by
  refine (endures_nsOr h).bind fun name hname => ?_
  refine (endures_deploymentSelector deployment hname).bind fun labels _ => ?_
  exact Cluster.endures_listPods (fun _ => .raised) _ _

theorem endures_addPullSecrets (secrets : List String) (h : ns.hashable = true)
    (account : String) :
    Endures w₀ (Tolerable w₀) Whatever (addPullSecrets secrets ns account) := by
  refine (endures_nsOr h).bind fun name hname => ?_
  refine (Cluster.endures_readServiceAccount account hname).attempt.bind fun outcome houtcome => ?_
  split
  · dsimp only
    split
    · exact endures_pure trivial
    · exact (Cluster.endures_patchServiceAccount account hname _).bind fun _ _ =>
        endures_pure trivial
  · exact (endures_log _ _).bind fun _ _ => endures_pure trivial
  · exact endures_throw houtcome

end Setup

end PodReach
