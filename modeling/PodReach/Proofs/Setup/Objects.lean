import PodReach.Proofs.Setup.Conduct

/-!
# What the cluster holds

Reading an object that succeeds shows that it exists, and creating one that succeeds makes it exist.
A conflict shows the same, unless the cluster reports one for no reason. Nothing that is done to
prepare a namespace takes away an object that can be looked for by itself.
-/

namespace PodReach

open Run World

/-- Only a text is the same as a text. -/
theorem Yaml.hashable_of_same {s : String} {value : Yaml} (h : Yaml.same (.text s) value = true) :
    value.hashable = true := by
  cases value <;> first | rfl | simp [Yaml.same] at h

/-! ## Requests -/

namespace Cluster

section Requests

variable {α : Type}

/-- What follows a request is done unless the service is broken. -/
theorem request_bind_apply (service : Service) (call : Call) (rest : Run α) (w : World) :
    (request service call >>= fun _ => rest) w =
      match w.cluster.broken service w.cluster.requests with
      | some fault => (.error (.fault fault), w.requested call)
      | none => rest (w.requested call) := by
  rw [bind_apply, request_apply]
  cases w.cluster.broken service w.cluster.requests <;> rfl

/-- What follows a name is done if something can be looked up by it. -/
theorem lookupName_bind_apply (name : Yaml) (rest : Run α) (w : World) :
    (lookupName name >>= fun _ => rest) w =
      if name.hashable then rest w else (.error (.mistake .wrongKind), w) := by
  unfold lookupName
  split <;> rfl

variable {service : Service} {call : Call} {name : Yaml} {rest : Run α} {w w' : World} {a : α}

/-- A request that ends well was answered. -/
theorem request_bind_eq_ok (h : (request service call >>= fun _ => rest) w = (.ok a, w')) :
    rest (w.requested call) = (.ok a, w') := by
  rw [request_bind_apply] at h
  cases hbroken : w.cluster.broken service w.cluster.requests with
  | some fault =>
      rw [hbroken] at h
      cases h
  | none => rwa [hbroken] at h

/-- What ends well has not stumbled over a name. -/
theorem lookupName_bind_eq_ok (h : (lookupName name >>= fun _ => rest) w = (.ok a, w')) :
    rest w = (.ok a, w') := by
  rw [lookupName_bind_apply] at h
  split at h
  · exact h
  · cases h

end Requests

/-! ## Namespaces and role bindings -/

variable {c c' : Cluster} {w w' : World} {name ns : Yaml} {binding account : String}

/-- A namespace exists by this name. -/
def HasNamespace (cluster : Cluster) (name : Yaml) : Prop :=
  ∃ other ∈ cluster.namespaces, other = name ∨ Yaml.same name other = true

theorem HasNamespace.later (h : c.HasNamespace name) (hlater : c.Continues c') :
    c'.HasNamespace name := by
  obtain ⟨other, hmem, hsame⟩ := h
  exact ⟨other, hlater.namespaces.mem hmem, hsame⟩

theorem hasNamespace_of_any (h : c.namespaces.any (Yaml.same name) = true) :
    c.HasNamespace name := by
  obtain ⟨other, hmem, hsame⟩ := List.any_eq_true.mp h
  exact ⟨other, hmem, Or.inr hsame⟩

theorem hasBinding_later (h : c.hasBinding binding = true) (hlater : c.Continues c') :
    c'.hasBinding binding = true := by
  obtain ⟨added, hadded⟩ := hlater.bindings
  rw [hasBinding, Option.isSome_iff_exists] at h
  obtain ⟨body, hbody⟩ := h
  rw [hasBinding, ← hadded, List.lookup_append, hbody]
  rfl

theorem readNamespace_apply (name : Yaml) (w : World) : readNamespace name w =
    (match w.cluster.broken .readNamespace w.cluster.requests with
      | some fault => .error (.fault fault)
      | none =>
        if name.hashable then
          if w.cluster.namespaces.any (Yaml.same name) then .ok () else .error (.fault .notFound)
        else .error (.mistake .wrongKind),
    w.requested (.readNamespace name)) := by
  unfold readNamespace
  rw [request_bind_apply, lookupName_bind_apply]
  cases w.cluster.broken .readNamespace w.cluster.requests with
  | some fault => rfl
  | none =>
      rw [bind_of_ok (get_apply _)]
      change (if name.hashable then (if w.cluster.namespaces.any (Yaml.same name) then _ else _ :
        Run Unit) _ else _) = _
      by_cases hname : name.hashable = true
      · simp only [hname, if_true]
        split <;> rfl
      · simp only [hname]
        rfl

theorem createNamespace_apply (name : Yaml) (w : World) : createNamespace name w =
    match w.cluster.broken .createNamespace w.cluster.requests with
    | some fault => (.error (.fault fault), w.requested (.createNamespace name))
    | none =>
      if name.hashable then
        if w.cluster.namespaces.any (Yaml.same name) then
          (.error (.fault .conflict), w.requested (.createNamespace name))
        else (.ok (), (w.requested (.createNamespace name)).withCluster
          { w.cluster with
            requests := w.cluster.requests + 1, namespaces := w.cluster.namespaces ++ [name] })
      else (.error (.mistake .wrongKind), w.requested (.createNamespace name)) := by
  unfold createNamespace
  rw [request_bind_apply, lookupName_bind_apply]
  cases w.cluster.broken .createNamespace w.cluster.requests with
  | some fault => rfl
  | none =>
      rw [bind_of_ok (get_apply _)]
      change (if name.hashable then (if w.cluster.namespaces.any (Yaml.same name) then _ else _ :
        Run Unit) _ else _) = _
      by_cases hname : name.hashable = true
      · simp only [hname, if_true]
        split <;> rfl
      · simp only [hname]
        rfl

theorem readBinding_apply (name : String) (w : World) : readBinding name w =
    (match w.cluster.broken .readBinding w.cluster.requests with
      | some fault => .error (.fault fault)
      | none => if w.cluster.hasBinding name then .ok () else .error (.fault .notFound),
    w.requested (.readBinding name)) := by
  unfold readBinding
  rw [request_bind_apply]
  cases w.cluster.broken .readBinding w.cluster.requests with
  | some fault => rfl
  | none =>
      rw [bind_of_ok (get_apply _)]
      change (if w.cluster.hasBinding name then _ else _ : Run Unit) _ = _
      split <;> rfl

theorem createBinding_apply (body : Json) (w : World) : createBinding body w =
    match w.cluster.broken .createBinding w.cluster.requests with
    | some fault => (.error (.fault fault), w.requested (.createBinding body))
    | none =>
      if w.cluster.hasBinding (nameIn body) then
        (.error (.fault .conflict), w.requested (.createBinding body))
      else (.ok (), (w.requested (.createBinding body)).withCluster
        { w.cluster with
          requests := w.cluster.requests + 1
          bindings := w.cluster.bindings ++ [(nameIn body, body)] }) := by
  unfold createBinding
  rw [request_bind_apply]
  cases w.cluster.broken .createBinding w.cluster.requests with
  | some fault => rfl
  | none =>
      rw [bind_of_ok (get_apply _)]
      change (if w.cluster.hasBinding (nameIn body) then _ else _ : Run Unit) _ = _
      split <;> rfl

/-- A namespace that is not created leaves no trace but the request. -/
theorem createNamespace_of_error {halt : Halt} (h : (createNamespace name w).1 = .error halt) :
    createNamespace name w = (.error halt, w.requested (.createNamespace name)) := by
  refine Prod.ext h ?_
  rw [createNamespace_apply] at h ⊢
  cases hbroken : w.cluster.broken .createNamespace w.cluster.requests with
  | some fault => rfl
  | none =>
      simp only [hbroken] at h ⊢
      by_cases hname : name.hashable = true
      · by_cases hany : w.cluster.namespaces.any (Yaml.same name) = true
        · simp only [hname, hany, if_true]
        · simp [hname, hany] at h
      · simp only [hname]
        rfl

/-- A role binding that is not created leaves no trace but the request. -/
theorem createBinding_of_error {body : Json} {halt : Halt}
    (h : (createBinding body w).1 = .error halt) :
    createBinding body w = (.error halt, w.requested (.createBinding body)) := by
  refine Prod.ext h ?_
  rw [createBinding_apply] at h ⊢
  cases hbroken : w.cluster.broken .createBinding w.cluster.requests with
  | some fault => rfl
  | none =>
      simp only [hbroken] at h ⊢
      by_cases hhas : w.cluster.hasBinding (nameIn body) = true
      · simp only [hhas, if_true]
      · simp [hhas] at h

/-- A namespace that can be read exists. -/
theorem hasNamespace_of_read (h : (readNamespace name w).1 = .ok ()) :
    w.cluster.HasNamespace name := by
  rw [readNamespace_apply] at h
  cases hbroken : w.cluster.broken .readNamespace w.cluster.requests with
  | some fault => simp [hbroken] at h
  | none =>
      simp only [hbroken] at h
      by_cases hany : w.cluster.namespaces.any (Yaml.same name) = true
      · exact hasNamespace_of_any hany
      · simp only [hany] at h
        split at h <;> cases h

/-- A role binding that can be read exists. -/
theorem hasBinding_of_read (h : (readBinding binding w).1 = .ok ()) :
    w.cluster.hasBinding binding = true := by
  rw [readBinding_apply] at h
  cases hbroken : w.cluster.broken .readBinding w.cluster.requests with
  | some fault => simp [hbroken] at h
  | none =>
      by_contra habsent
      simp [hbroken, habsent] at h

/-- A cluster that reports a conflict only about what it has. -/
structure TruthfulConflicts (cluster : Cluster) (name : Yaml) (binding : String) : Prop where
  namespaces : ∀ n reason, cluster.broken .createNamespace n = some (.api 409 reason) →
    cluster.HasNamespace name
  bindings : ∀ n reason, cluster.broken .createBinding n = some (.api 409 reason) →
    cluster.hasBinding binding = true

theorem TruthfulConflicts.later (h : c.TruthfulConflicts name binding) (hlater : c.Continues c') :
    c'.TruthfulConflicts name binding where
  namespaces n reason hconflict :=
    (h.namespaces n reason (hlater.broken ▸ hconflict)).later hlater
  bindings n reason hconflict :=
    hasBinding_later (h.bindings n reason (hlater.broken ▸ hconflict)) hlater

/-- A namespace exists once it was created, by whomever. -/
theorem TruthfulConflicts.hasNamespace (h : w.cluster.TruthfulConflicts name binding)
    (hcreate : (createNamespace name w).1 = .ok () ∨
      ∃ reason, (createNamespace name w).1 = .error (.fault (.api 409 reason))) :
    (createNamespace name w).2.cluster.HasNamespace name := by
  have hlater := (isCall_createNamespace name).continues w
  rw [createNamespace_apply] at hcreate hlater ⊢
  cases hbroken : w.cluster.broken .createNamespace w.cluster.requests with
  | some fault =>
      simp only [hbroken] at hcreate hlater ⊢
      obtain ⟨reason, hfault⟩ := hcreate.resolve_left (by simp)
      cases hfault
      exact (h.namespaces _ reason hbroken).later hlater
  | none =>
      simp only [hbroken] at hcreate hlater ⊢
      by_cases hname : name.hashable = true
      · simp only [hname, if_true] at hlater ⊢
        by_cases hany : w.cluster.namespaces.any (Yaml.same name) = true
        · simp only [hany, if_true] at hlater ⊢
          exact (hasNamespace_of_any hany).later hlater
        · simp only [hany]
          exact ⟨name, List.mem_append_right _ (List.mem_singleton.mpr rfl), Or.inl rfl⟩
      · simp [hname] at hcreate

/-- A role binding exists once it was created, by whomever. -/
theorem TruthfulConflicts.hasBinding {body : Json}
    (h : w.cluster.TruthfulConflicts name (nameIn body))
    (hcreate : (createBinding body w).1 = .ok () ∨
      ∃ reason, (createBinding body w).1 = .error (.fault (.api 409 reason))) :
    (createBinding body w).2.cluster.hasBinding (nameIn body) = true := by
  have hlater := (isCall_createBinding body).continues w
  rw [createBinding_apply] at hcreate hlater ⊢
  cases hbroken : w.cluster.broken .createBinding w.cluster.requests with
  | some fault =>
      simp only [hbroken] at hcreate hlater ⊢
      obtain ⟨reason, hfault⟩ := hcreate.resolve_left (by simp)
      cases hfault
      exact hasBinding_later (h.bindings _ reason hbroken) hlater
  | none =>
      simp only [hbroken] at hlater ⊢
      by_cases hhas : w.cluster.hasBinding (nameIn body) = true
      · simp only [hhas, if_true] at hlater ⊢
        exact hasBinding_later hhas hlater
      · simp only [hhas]
        change ((w.cluster.bindings ++ [(nameIn body, body)]).lookup (nameIn body)).isSome = true
        simp [List.lookup_append]

/-! ## Service accounts -/

/-- Whether this is the service account of a name in a namespace. -/
def isAccount (name : String) (ns : Yaml) (a : ServiceAccount) : Bool :=
  a.name == name && Yaml.same (.text a.ns) ns

/-- The service account of a name in a namespace. -/
def account? (cluster : Cluster) (name : String) (ns : Yaml) : Option ServiceAccount :=
  cluster.accounts.find? (isAccount name ns)

/-- A service account after a change to the one of a name in a namespace. -/
def afterPatch (name : String) (ns : Yaml) (body : Json) (a : ServiceAccount) : ServiceAccount :=
  if isAccount name ns a then { a with secrets := secretsIn body } else a

theorem isAccount_afterPatch (name : String) (ns : Yaml) (body : Json) (a : ServiceAccount) :
    isAccount name ns (afterPatch name ns body a) = isAccount name ns a := by
  unfold afterPatch
  split <;> rfl

/-- A service account that can be read exists, and reading it changes nothing about it. -/
theorem readServiceAccount_eq_ok {found : ServiceAccount}
    (h : readServiceAccount account ns w = (.ok found, w')) :
    w' = w.requested (.readServiceAccount account ns) ∧
      w.cluster.account? account ns = some found := by
  have hanswered := lookupName_bind_eq_ok (request_bind_eq_ok h)
  rw [bind_of_ok (get_apply _)] at hanswered
  change Cluster.found (w.cluster.account? account ns) _ = _ at hanswered
  cases haccount : w.cluster.account? account ns with
  | none =>
      rw [haccount] at hanswered
      cases hanswered
  | some a =>
      rw [haccount] at hanswered
      cases hanswered
      exact ⟨rfl, rfl⟩

/-- A change to a service account names the secrets that it was made from. -/
@[simp]
theorem secretsIn_secretsPatch (secrets : List String) :
    secretsIn (secretsPatch secrets) = secrets := by
  have hitems : secretsIn (secretsPatch secrets) =
      (secrets.map fun s => Json.object [("name", .text s)]).filterMap
        fun item => textOf? (item.part "name") := rfl
  rw [hitems, List.filterMap_map]
  exact List.filterMap_some

/-- A service account that was changed has the secrets that the change names. -/
theorem patchServiceAccount_eq_ok {body : Json} {found : ServiceAccount}
    (h : patchServiceAccount account ns body w = (.ok (), w'))
    (hfound : w.cluster.account? account ns = some found) :
    w'.cluster.account? account ns = some { found with secrets := secretsIn body } := by
  have hanswered := lookupName_bind_eq_ok (request_bind_eq_ok h)
  obtain rfl : _ = w' := (Prod.mk.inj hanswered).2
  change (w.cluster.accounts.map (afterPatch account ns body)).find? (isAccount account ns) = _
  have hfind : w.cluster.accounts.find? (isAccount account ns) = some found := hfound
  rw [List.find?_map, show isAccount account ns ∘ afterPatch account ns body = isAccount account ns
    from funext (isAccount_afterPatch account ns body), hfind, Option.map_some]
  exact congrArg some (if_pos (List.find?_some hfind))

end Cluster

end PodReach
