import PodReach.Proofs.Setup.Objects

/-!
# Pull secrets are added to what is there

A service account that can be read and changed keeps its pull secrets in their order and gets the
ones it lacks after them, by one change, or by none if it lacks none. Doing it again changes
nothing. A secret that the account lacks is added as often as it is asked for, so what it has
afterwards is free of repetition only if the account is and what it lacks is asked for once.
-/

namespace PodReach

open Run World

variable {w : World} {ns name : Yaml} {account s : String} {found : ServiceAccount}
  {held asked secrets : List String}

/-! ## Calls one after another -/

namespace World

theorem continues_called (w : World) (call : Call) : w.Continues (w.called call) :=
  continues_ask call (World.empty.withCluster w.cluster)

theorem continues_foldl_called (w : World) (calls : List Call) :
    w.Continues (calls.foldl called w) := by
  induction calls generalizing w with
  | nil => exact .refl w.cluster
  | cons call calls ih => exact (continues_called w call).trans (ih (w.called call))

theorem callsSince_foldl_called {w₀ : World} {calls : List Call} (hgrown : w₀.Grew w)
    (hservice : ∀ call ∈ calls, call.service?.isSome = true) :
    callsSince w₀ (calls.foldl called w) = callsSince w₀ w ++ calls := by
  induction calls generalizing w with
  | nil => simp
  | cons call calls ih =>
      have hnext := callsSince_called hgrown (hservice call List.mem_cons_self)
      rw [List.foldl_cons, ih (List.IsPrefix.trans hgrown (grew_called w call))
        fun later hlater => hservice later (List.mem_cons_of_mem _ hlater), hnext]
      simp

end World

namespace Setup

open Cluster

/-! ## What is lacking -/

/-- The secrets that are asked for but not held, in the order and as often as they are asked for. -/
def lacking (held asked : List String) : List String :=
  asked.filter fun s => !held.contains s

@[simp]
theorem mem_lacking : s ∈ lacking held asked ↔ s ∈ asked ∧ s ∉ held := by
  simp [lacking]

theorem lacking_eq_nil_iff : lacking held asked = [] ↔ ∀ s ∈ asked, s ∈ held := by
  simp [lacking]

theorem lacking_isEmpty_eq_false_iff :
    (lacking held asked).isEmpty = false ↔ ∃ s ∈ asked, s ∉ held := by
  rw [List.isEmpty_eq_false_iff, ne_eq, lacking_eq_nil_iff]
  simp

theorem mem_append_lacking : s ∈ held ++ lacking held asked ↔ s ∈ held ∨ s ∈ asked := by
  by_cases hheld : s ∈ held <;> simp [hheld]

/-- What is lacking repeats nothing that is held. -/
theorem nodup_append_lacking :
    (held ++ lacking held asked).Nodup ↔ held.Nodup ∧ (lacking held asked).Nodup := by
  rw [List.nodup_append]
  refine ⟨fun h => ⟨h.1, h.2.1⟩, fun h => ⟨h.1, h.2, ?_⟩⟩
  rintro s hheld _ hlacking rfl
  exact (mem_lacking.mp hlacking).2 hheld

/-- What a list of secrets becomes when some are asked for, and whether it changes. -/
structure Reconciled (before asked after : List String) (changed : Bool) : Prop where
  kept : before <+: after
  exact : ∀ s, s ∈ after ↔ s ∈ before ∨ s ∈ asked
  changed_iff : changed = true ↔ ∃ s ∈ asked, s ∉ before
  nodup_iff : after.Nodup ↔ before.Nodup ∧ (lacking before asked).Nodup

theorem reconciled_append_lacking (held asked : List String) :
    Reconciled held asked (held ++ lacking held asked) (!(lacking held asked).isEmpty) where
  kept := List.prefix_append _ _
  exact _ := mem_append_lacking
  changed_iff := by rw [Bool.not_eq_true', lacking_isEmpty_eq_false_iff]
  nodup_iff := nodup_append_lacking

/-! ## Reading and changing the account -/

/-- A cluster that has a service account and lets it be read and changed. -/
structure Serves (cluster : Cluster) (account : String) (name : Yaml) (found : ServiceAccount) :
    Prop where
  account : cluster.account? account name = some found
  read : ∀ n, cluster.broken .readServiceAccount n = none
  patch : ∀ n, cluster.broken .patchServiceAccount n = none

namespace Serves

theorem hashable (h : Serves w.cluster account name found) : name.hashable = true := by
  have hfound : isAccount account name found = true := List.find?_some h.account
  exact Yaml.hashable_of_same (Bool.and_eq_true_iff.mp hfound).2

theorem readServiceAccount_eq (h : Serves w.cluster account name found) :
    readServiceAccount account name w =
      (.ok found, w.called (.readServiceAccount account name)) := by
  refine Prod.ext ?_ ((isCall_readServiceAccount account).world w)
  unfold readServiceAccount
  rw [request_bind_apply, h.read]
  dsimp only
  rw [lookupName_bind_apply, if_pos h.hashable, bind_of_ok (get_apply _)]
  change (Cluster.found (w.cluster.account? account name) _).1 = _
  rw [h.account]
  rfl

theorem patchServiceAccount_eq (h : Serves w.cluster account name found) (body : Json) :
    patchServiceAccount account name body w =
      (.ok (), w.called (.patchServiceAccount account name body)) := by
  refine Prod.ext ?_ ((isCall_patchServiceAccount account body).world w)
  unfold patchServiceAccount
  rw [request_bind_apply, h.patch]
  dsimp only
  rw [lookupName_bind_apply, if_pos h.hashable]
  rfl

/-- Reading the account leaves it as it is. -/
theorem afterRead (h : Serves w.cluster account name found) :
    Serves (w.called (.readServiceAccount account name)).cluster account name found := by
  have hsame := continues_called w (.readServiceAccount account name)
  constructor
  case account =>
    rw [(readServiceAccount_eq_ok h.readServiceAccount_eq).1]
    exact h.account
  case read => exact fun n => hsame.broken ▸ h.read n
  case patch => exact fun n => hsame.broken ▸ h.patch n

/-- After a change the account has the secrets that the change names. -/
theorem afterPatch (h : Serves w.cluster account name found) (secrets : List String) :
    Serves (w.called (.patchServiceAccount account name (secretsPatch secrets))).cluster account
      name { found with secrets } := by
  have hsame := continues_called w (.patchServiceAccount account name (secretsPatch secrets))
  constructor
  case account =>
    rw [patchServiceAccount_eq_ok (h.patchServiceAccount_eq _) h.account, secretsIn_secretsPatch]
  case read => exact fun n => hsame.broken ▸ h.read n
  case patch => exact fun n => hsame.broken ▸ h.patch n

end Serves

/-! ## Adding -/

/-- The calls that give an account some secrets: it is read, and changed if it lacks any. -/
def addingCalls (account : String) (name : Yaml) (held asked : List String) : List Call :=
  .readServiceAccount account name ::
    if (lacking held asked).isEmpty then []
    else [.patchServiceAccount account name (secretsPatch (held ++ lacking held asked))]

/-- The world after an account was given what it lacks. -/
theorem addPullSecrets_apply (hname : ns.orElse w.cluster.ns = name)
    (h : Serves w.cluster account name found) :
    addPullSecrets asked ns account w =
      (.ok (!(lacking found.secrets asked).isEmpty),
        (addingCalls account name found.secrets asked).foldl called w) := by
  unfold addPullSecrets addingCalls
  rw [bind_of_ok (nsOr_apply ns w), hname, bind_of_ok (attempt_apply _ w), h.readServiceAccount_eq]
  change (if (lacking found.secrets asked).isEmpty then _ else _ : Run Bool) _ = _
  cases (lacking found.secrets asked).isEmpty with
  | true => rfl
  | false =>
      change (patchServiceAccount account name
        (secretsPatch (found.secrets ++ lacking found.secrets asked)) >>= _ : Run Bool) _ = _
      rw [bind_of_ok (h.afterRead.patchServiceAccount_eq _)]
      rfl

/-- An account that was given what it lacks has it, and it can be read and changed again. -/
theorem Serves.afterAdding (h : Serves w.cluster account name found) (asked : List String) :
    Serves ((addingCalls account name found.secrets asked).foldl called w).cluster account name
      { found with secrets := found.secrets ++ lacking found.secrets asked } := by
  unfold addingCalls
  cases hlacking : lacking found.secrets asked with
  | nil =>
      rw [List.append_nil]
      exact h.afterRead
  | cons secret rest => exact h.afterRead.afterPatch _

theorem callsSince_addingCalls (w : World) (account : String) (name : Yaml)
    (held asked : List String) :
    callsSince w ((addingCalls account name held asked).foldl called w) =
      addingCalls account name held asked := by
  have hservice : ∀ call ∈ addingCalls account name held asked, call.service?.isSome = true := by
    unfold addingCalls
    split <;> simp [Call.service?]
  rw [callsSince_foldl_called (List.prefix_refl _) hservice, (Uncalled.refl w).callsSince_eq_nil,
    List.nil_append]

/-- An account that holds whatever is asked for is read and left alone. -/
theorem addPullSecrets_of_held (hname : ns.orElse w.cluster.ns = name)
    (h : Serves w.cluster account name found) (hheld : ∀ s ∈ asked, s ∈ found.secrets) :
    addPullSecrets asked ns account w =
      (.ok false, w.called (.readServiceAccount account name)) := by
  rw [addPullSecrets_apply hname h, addingCalls, lacking_eq_nil_iff.mpr hheld]
  rfl

/-- A service account that can be read and changed keeps its secrets in their order and has exactly
those and the ones that were asked for, after one change if it lacked any and none otherwise. Asking
again for any of them changes nothing. -/
theorem addPullSecrets_reconciles (asked : List String)
    (h : Serves w.cluster account (ns.orElse w.cluster.ns) found) :
    ∃ changed after w', addPullSecrets asked ns account w = (.ok changed, w') ∧
      Reconciled found.secrets asked after changed ∧
      w'.cluster.account? account (ns.orElse w.cluster.ns) =
        some { found with secrets := after } ∧
      callsSince w w' = .readServiceAccount account (ns.orElse w.cluster.ns) ::
        (if changed then
          [.patchServiceAccount account (ns.orElse w.cluster.ns) (secretsPatch after)] else []) ∧
      ∀ again ⊆ asked, ∃ w'', addPullSecrets again ns account w' = (.ok false, w'') ∧
        w''.cluster.account? account (ns.orElse w.cluster.ns) =
          some { found with secrets := after } ∧
        callsSince w' w'' = [.readServiceAccount account (ns.orElse w.cluster.ns)] := by
  generalize hname : ns.orElse w.cluster.ns = name at h ⊢
  have hadded := h.afterAdding asked
  have hagain := (continues_foldl_called w (addingCalls account name found.secrets asked)).ns
  refine ⟨_, found.secrets ++ lacking found.secrets asked, _, addPullSecrets_apply hname h,
    reconciled_append_lacking _ _, hadded.account, ?_, fun again hsub => ?_⟩
  · rw [callsSince_addingCalls, addingCalls]
    cases (lacking found.secrets asked).isEmpty <;> rfl
  · have hheld : ∀ s ∈ again, s ∈ found.secrets ++ lacking found.secrets asked :=
      fun s hs => mem_append_lacking.mpr (Or.inr (hsub hs))
    refine ⟨_, addPullSecrets_of_held (by rw [hagain, hname]) hadded hheld,
      hadded.afterRead.account, ?_⟩
    rw [callsSince_called (List.prefix_refl _) rfl, (Uncalled.refl _).callsSince_eq_nil]
    rfl

/-- A secret that is there already is passed over, and one that is not is added. -/
theorem addPullSecrets_reconciles_one_of_two :
    let w := { World.empty with
      cluster := { Cluster.empty with accounts := [⟨"default", "default", ["old"]⟩] } }
    let found : ServiceAccount := ⟨"default", "default", ["old"]⟩
    let name := Yaml.null.orElse w.cluster.ns
    Serves w.cluster "default" name found ∧
      ∃ changed after w', addPullSecrets ["new", "old"] .null "default" w = (.ok changed, w') ∧
        Reconciled ["old"] ["new", "old"] after changed ∧
        w'.cluster.account? "default" name = some { found with secrets := after } ∧
        callsSince w w' = .readServiceAccount "default" name ::
          (if changed then [.patchServiceAccount "default" name (secretsPatch after)] else []) := by
  intro w found name
  have hserves : Serves w.cluster "default" name found := ⟨by decide, fun _ => rfl, fun _ => rfl⟩
  obtain ⟨changed, after, w', hrun, hreconciled, haccount, hcalls, -⟩ :=
    addPullSecrets_reconciles ["new", "old"] hserves
  exact ⟨hserves, changed, after, w', hrun, hreconciled, haccount, hcalls⟩

/-- A secret that is asked for twice is on the account twice. -/
theorem addPullSecrets_repeated :
    let w := { World.empty with
      cluster := { Cluster.empty with accounts := [⟨"default", "default", []⟩] } }
    let run := addPullSecrets ["registry", "registry"] .null "default" w
    w.cluster.account? "default" (.text "default") = some ⟨"default", "default", []⟩ ∧
      run.1 = .ok true ∧
      run.2.cluster.account? "default" (.text "default") =
        some ⟨"default", "default", ["registry", "registry"]⟩ ∧
      ¬ ["registry", "registry"].Nodup := by
  intro w run
  exact ⟨by decide +kernel, rfl, by decide +kernel, by decide⟩

end Setup

end PodReach
