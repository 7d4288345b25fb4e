import PodReach.Proofs.Program.Conduct
import PodReach.Proofs.Setup.Objects

/-!
# A prepared namespace is ready

A preparation that ends well has done what it says: the namespace exists, the account has its rights
where they are needed, and the pull secrets are on the service account. The one exception is a
service account that cannot be read. Whatever the reason for that is, it is only logged, and the
preparation goes on to say that nothing had to be updated.

Each part is taken from an end that is known to be good back through the calls that led there, and
what it found is still there at the end, since nothing is ever taken away.
-/

namespace PodReach

open Run World

variable {w w' : World} {ns : Yaml} {binding account : String} {secrets : List String}

namespace Setup

open Cluster

/-- What was done was done, and what was not done was answered with the status that is expected. -/
theorem doneUnless_eq_ok {expected : Int} {action : Run Unit} {done : Bool}
    (h : doneUnless expected action w = (.ok done, w')) : (action w).2 = w' ∧
      (done = true ∧ (action w).1 = .ok () ∨
        done = false ∧ ∃ reason, (action w).1 = .error (.fault (.api expected reason))) := by
  unfold doneUnless at h
  rw [bind_of_ok (attempt_apply action w)] at h
  generalize action w = run at h ⊢
  rcases run with ⟨halt | _, v⟩
  · cases halt with
    | fault fault =>
        cases fault with
        | api status reason =>
            dsimp only at h
            split at h
            next hstatus =>
              cases h
              exact ⟨rfl, Or.inr ⟨rfl, reason, by rw [hstatus]⟩⟩
            next => cases h
        | _ => cases h
    | _ => cases h
  · cases h
    exact ⟨rfl, Or.inl ⟨rfl, rfl⟩⟩

/-- What ends well although it was to create an object and say so has created it, or the object was
there already. -/
theorem created_eq_ok {create announce : Run Unit} (hquiet : Keeps Quiet announce)
    (h : (createdBy create >>= fun created => if created then announce else pure ()) w =
      (.ok (), w')) :
    ((create w).1 = .ok () ∨ ∃ reason, (create w).1 = .error (.fault (.api 409 reason))) ∧
      Quiet (create w).2 w' := by
  obtain ⟨created, w₁, hcreate, h⟩ := bind_eq_ok h
  obtain ⟨rfl, ⟨rfl, hcreated⟩ | ⟨rfl, hconflict⟩⟩ := doneUnless_eq_ok hcreate
  · exact ⟨Or.inl hcreated, hquiet.of_run h⟩
  · cases h
    exact ⟨Or.inr hconflict, .refl _⟩

/-- A namespace that was made sure of exists. -/
theorem hasNamespace_of_ensured
    (htruthful : w.cluster.TruthfulConflicts (ns.orElse w.cluster.ns) binding)
    (h : ensureNamespace ns w = (.ok (), w')) :
    w'.cluster.HasNamespace (ns.orElse w.cluster.ns) := by
  unfold ensureNamespace at h
  rw [bind_of_ok (nsOr_apply ns w)] at h
  obtain ⟨found, w₁, hread, h⟩ := bind_eq_ok h
  obtain ⟨rfl, ⟨rfl, hfound⟩ | ⟨rfl, -⟩⟩ := doneUnless_eq_ok hread
  all_goals have hread := (isCall_readNamespace (ns.orElse w.cluster.ns)).continues w
  · cases h
    exact (hasNamespace_of_read hfound).later hread
  · obtain ⟨hcreated, hquiet⟩ := created_eq_ok (quiet_success _) h
    exact ((htruthful.later hread).hasNamespace hcreated).later hquiet.continues

/-- The role binding that was made sure of exists, unless it is not needed. -/
theorem hasBinding_of_ensured {name : Yaml} {lookup : Run String} (hlookup : Keeps Quiet lookup)
    (htruthful : w.cluster.TruthfulConflicts name bindingName)
    (h : ensureBinding lookup w = (.ok (), w')) :
    isLocal w.cluster.context = true ∨ w'.cluster.hasBinding bindingName = true ∨
      Yaml.same w.cluster.authProvider (.text "gcp") = false := by
  unfold ensureBinding at h
  rw [bind_of_ok (get_apply w)] at h
  cases hlocal : isLocal w.cluster.context with
  | true => exact Or.inl rfl
  | false =>
      refine Or.inr ?_
      rw [hlocal] at h
      obtain ⟨found, w₁, hread, h⟩ := bind_eq_ok (show (_ >>= _ : Run Unit) w = _ from h)
      obtain ⟨rfl, ⟨rfl, hfound⟩ | ⟨rfl, -⟩⟩ := doneUnless_eq_ok hread
      all_goals have hread := (isCall_readBinding bindingName).continues w
      · cases h
        exact Or.inl (hasBinding_later (hasBinding_of_read hfound) hread)
      · cases hgcp : Yaml.same w.cluster.authProvider (.text "gcp") with
        | false => exact Or.inr rfl
        | true =>
            refine Or.inl ?_
            rw [if_pos (by rfl), bind_of_ok (get_apply _), hread.authProvider, if_pos hgcp] at h
            obtain ⟨user, w₂, huser, h⟩ := bind_eq_ok h
            cases hempty : user.isEmpty with
            | true =>
                rw [hempty] at h
                cases h
            | false =>
                rw [hempty] at h
                obtain ⟨hcreated, hquiet⟩ := created_eq_ok (quiet_success _) h
                have hsince := hread.trans (hlookup.of_run huser).continues
                have hhas := (htruthful.later hsince).hasBinding hcreated
                exact hasBinding_later hhas hquiet.continues

/-- A service account has a pull secret. -/
def HasSecret (cluster : Cluster) (account : String) (ns : Yaml) (secret : String) : Prop :=
  ∃ found, cluster.account? account ns = some found ∧ secret ∈ found.secrets

/-- The secrets that were asked for are on the service account, unless reading it was refused. -/
theorem hasSecrets_of_added {changed : Bool}
    (h : addPullSecrets secrets ns account w = (.ok changed, w')) :
    (∀ secret ∈ secrets, HasSecret w'.cluster account (ns.orElse w.cluster.ns) secret) ∨
      ∃ status reason, (readServiceAccount account (ns.orElse w.cluster.ns) w).1 =
          .error (.fault (.api status reason)) ∧
        Quiet (readServiceAccount account (ns.orElse w.cluster.ns) w).2 w' := by
  unfold addPullSecrets at h
  rw [bind_of_ok (nsOr_apply ns w), bind_of_ok (attempt_apply _ w)] at h
  generalize hname : ns.orElse w.cluster.ns = name at h ⊢
  rcases hread : readServiceAccount account name w with ⟨halt | found, w₁⟩ <;> rw [hread] at h
  · refine Or.inr ?_
    cases halt with
    | fault fault =>
        cases fault with
        | api status reason =>
            refine ⟨status, reason, rfl, ?_⟩
            exact ((quiet_log _ _).bind fun _ => keeps_pure _).of_run h
        | _ => cases h
    | _ => cases h
  · refine Or.inl fun secret hsecret => ?_
    obtain ⟨rfl, hfound⟩ := readServiceAccount_eq_ok hread
    dsimp only at h
    split at h
    next hnone =>
      cases h
      refine ⟨found, hfound, ?_⟩
      have hheld := (List.filter_eq_nil_iff.mp (List.isEmpty_iff.mp hnone)) secret hsecret
      simpa using hheld
    next =>
      obtain ⟨_, w₂, hpatch, h⟩ := bind_eq_ok h
      cases h
      refine ⟨_, patchServiceAccount_eq_ok hpatch hfound, ?_⟩
      by_cases hheld : secret ∈ found.secrets
      · simp [hheld]
      · simp [hheld, hsecret]

end Setup

namespace Command

open Cluster Setup

/-- What a preparation promises: the namespace exists, the account has its rights if they are
needed, the service account has the secrets or could not be read, and the namespace is said to be
ready. -/
structure Readied (name : Yaml) (secrets : List String) (w w' : World) : Prop where
  ns : w'.cluster.HasNamespace name
  rights : isLocal w.cluster.context = true ∨ w'.cluster.hasBinding bindingName = true ∨
    Yaml.same w.cluster.authProvider (.text "gcp") = false
  secrets : (∀ secret ∈ secrets, HasSecret w'.cluster "default" name secret) ∨
    ∃ before status reason, callsSince w w' = before ++ [.readServiceAccount "default" name] ∧
      (w.cluster.afterAll before).refusal? (.readServiceAccount "default" name) =
        some (.api status reason)
  announced :
    let message := s!"命名空间 {name.shown} 已准备就绪"
    .display (.line s!"[green]✅ 主人，{message}[/green]") ∈ entriesSince w w'

/-- A preparation that ends well went through all of its parts. -/
theorem initCluster_eq_ok (h : initCluster ns secrets w = (.ok (), w')) :
    ∃ w₁ w₂ w₃, ensureNamespace (ns.orElse w.cluster.ns) w = (.ok (), w₁) ∧
      ensureBinding cloudAccount w₁ = (.ok (), w₂) ∧
      (secrets = [] ∧ w₃ = w₂ ∨ ∃ changed v,
        addPullSecrets secrets (ns.orElse w.cluster.ns) "default" w₂ = (.ok changed, v) ∧
        Quiet v w₃) ∧
      Console.success s!"命名空间 {(ns.orElse w.cluster.ns).shown} 已准备就绪" w₃ = (.ok (), w') := by
  unfold initCluster at h
  rw [bind_of_ok (nsOr_apply ns w)] at h
  obtain ⟨_, w₁, hns, h⟩ := bind_eq_ok h
  obtain ⟨_, w₂, hbinding, h⟩ := bind_eq_ok h
  cases secrets with
  | nil => exact ⟨w₁, w₂, w₂, hns, hbinding, Or.inl ⟨rfl, rfl⟩, h⟩
  | cons secret rest =>
      obtain ⟨changed, v, hadded, h⟩ := bind_eq_ok (show (_ >>= _ : Run Unit) w₂ = _ from h)
      cases changed with
      | true =>
          obtain ⟨_, w₃, hshown, h⟩ := bind_eq_ok h
          exact ⟨w₁, w₂, w₃, hns, hbinding,
            Or.inr ⟨true, v, hadded, (quiet_success _).of_run hshown⟩, h⟩
      | false =>
          obtain ⟨_, w₃, hshown, h⟩ := bind_eq_ok h
          exact ⟨w₁, w₂, w₃, hns, hbinding,
            Or.inr ⟨false, v, hadded, (quiet_info _).of_run hshown⟩, h⟩

/-- A preparation that ends well leaves the namespace ready, on every cluster that reports conflicts
truthfully, whatever else it answers to any call. -/
theorem initCluster_readies (ns : Yaml) (secrets : List String)
    (htruthful : w.cluster.TruthfulConflicts (ns.orElse w.cluster.ns) bindingName)
    (h : initCluster ns secrets w = (.ok (), w')) :
    Readied (ns.orElse w.cluster.ns) secrets w w' := by
  obtain ⟨w₁, w₂, w₃, hns, hbinding, hadded, hready⟩ := initCluster_eq_ok h
  have hagain := Yaml.orElse_orElse ns w.cluster.ns
  generalize hname : ns.orElse w.cluster.ns = name at *
  -- the conduct of each part gives what it leaves as it was
  have h₁ := ((leads_ensureNamespace hagain (.start ⟨name, false⟩ w)).of_run hns).1
  have h₂ := ((leads_ensureBinding quiet_cloudAccount h₁).of_run hbinding).1
  have hbound := ((leads_ensureBinding quiet_cloudAccount (.start ⟨name, false⟩ w₁)).of_run
    hbinding).1.continues
  have hagain₂ : name.orElse w₂.cluster.ns = name := by rw [h₂.ns_eq, hagain]
  have hlast : Quiet w₃ w' := (quiet_success _).of_run hready
  have h₃ : Conduct ⟨name, false⟩ w none w₃ ∧ w₂.Continues w₃ := by
    obtain ⟨-, rfl⟩ | ⟨changed, v, hadded, hquiet⟩ := hadded
    · exact ⟨h₂, .refl _⟩
    · have hv := ((leads_addPullSecrets hagain secrets "default" h₂).of_run hadded).1
      have hv₂ := ((leads_addPullSecrets hagain₂ secrets "default"
        (.start ⟨name, false⟩ w₂)).of_run hadded).1.continues
      exact ⟨hv.quiet hquiet, hv₂.trans hquiet.continues⟩
  have hlater : w₂.Continues w' := h₃.2.trans hlast.continues
  constructor
  case ns =>
    have hhas := hasNamespace_of_ensured (hagain.symm ▸ htruthful) hns
    rw [hagain] at hhas
    exact hhas.later (hbound.trans hlater)
  case rights =>
    have hrights := hasBinding_of_ensured quiet_cloudAccount (htruthful.later h₁.continues) hbinding
    rw [h₁.continues.context, h₁.continues.authProvider] at hrights
    exact hrights.imp_right fun hrights => hrights.imp_left fun hhas => hasBinding_later hhas hlater
  case secrets =>
    obtain ⟨rfl, -⟩ | ⟨changed, v, hadded, hquiet⟩ := hadded
    · exact Or.inl nofun
    · have hend : Quiet v w' := hquiet.trans hlast
      have hsecrets := hasSecrets_of_added hadded
      rw [hagain₂] at hsecrets
      refine hsecrets.imp (fun hheld secret hsecret => ?_) fun hrefused => ?_
      · rw [hend.cluster]
        exact hheld secret hsecret
      · obtain ⟨status, reason, hread, hafter⟩ := hrefused
        have hcall : IsCall (.readServiceAccount "default" name) _ :=
          isCall_readServiceAccount "default"
        refine ⟨callsSince w w₂, status, reason, ?_, ?_⟩
        · rw [hcall.world w₂] at hafter
          rw [callsSince_quiet (h₂.grew.trans (grew_called w₂ _)) (hafter.trans hend),
            callsSince_called h₂.grew rfl]
        · rw [← h₂.cluster]
          exact (hcall.refused w₂ _).mp hread
  case announced =>
    rw [line_eq_ok hready, entriesSince_append h₃.1.grew (journal_noted _ _)]
    exact List.mem_append_right _ (List.mem_singleton.mpr rfl)

/-- A namespace that does not exist yet is prepared for an account of a Google cloud. -/
theorem initCluster_readies_new_namespace :
    let w := { World.empty with
      process := .finished 0 "dev@example.com" ""
      cluster := { Cluster.empty with
        authProvider := .text "gcp"
        accounts := [⟨"default", "team", ["old"]⟩] } }
    let run := initCluster (.text "team") ["registry"] w
    w.cluster.TruthfulConflicts (.text "team") bindingName ∧ run.1 = .ok () ∧
      Readied (.text "team") ["registry"] w run.2 := by
  intro w run
  have htruthful : w.cluster.TruthfulConflicts (.text "team") bindingName := ⟨nofun, nofun⟩
  have hended : run.1 = .ok () := by decide +kernel
  exact ⟨htruthful, hended,
    initCluster_readies (.text "team") ["registry"] htruthful (Prod.ext hended rfl)⟩

/-- Someone who may not read the service account is told that the namespace is ready, although the
account exists and does not get its secret. -/
theorem initCluster_account_forbidden :
    let w := { World.empty with
      cluster := { Cluster.empty with
        namespaces := [.text "default"]
        bindings := [(bindingName, .object [])]
        accounts := [⟨"default", "default", []⟩]
        broken := fun service _ =>
          if service = .readServiceAccount then some (.api 403 (some "Forbidden")) else none } }
    let run := initCluster (.text "default") ["registry"] w
    w.cluster.TruthfulConflicts (.text "default") bindingName ∧ run.1 = .ok () ∧
      run.2.cluster.account? "default" (.text "default") = some ⟨"default", "default", []⟩ ∧
      ¬ HasSecret run.2.cluster "default" (.text "default") "registry" := by
  intro w run
  have haccount : run.2.cluster.account? "default" (.text "default") =
      some ⟨"default", "default", []⟩ := by decide +kernel
  refine ⟨⟨nofun, nofun⟩, by decide +kernel, haccount, ?_⟩
  rintro ⟨found, hfound, hsecret⟩
  cases haccount.symm.trans hfound
  cases hsecret

end Command

end PodReach
