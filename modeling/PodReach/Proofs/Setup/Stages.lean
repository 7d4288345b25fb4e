import PodReach.Proofs.Setup.Objects

/-!
# A preparation call by call

Making sure of a namespace and then of its role binding takes at most four calls, each of which the
server answers at once. Between two calls others may act on the cluster. So a preparation is cut
into stages, one for each call, and put together again from them: what is still to be done at a
stage is the next step and what is still to be done after it.
-/

namespace PodReach.Setup

open Run World Cluster

/-! ## Answers -/

section Answers

variable {expected : Int} {action : Run Unit} {w w' : World}

theorem doneUnless_of_ok (h : action w = (.ok (), w')) :
    doneUnless expected action w = (.ok true, w') := by
  unfold doneUnless
  rw [bind_of_ok (attempt_apply action w), h]
  rfl

theorem doneUnless_of_expected {reason : Option String}
    (h : action w = (.error (.fault (.api expected reason)), w')) :
    doneUnless expected action w = (.ok false, w') := by
  unfold doneUnless
  rw [bind_of_ok (attempt_apply action w), h]
  simp only [if_true]
  rfl

/-- Any other answer than the expected one is an error. -/
theorem doneUnless_of_fault {fault : Fault} (h : action w = (.error (.fault fault), w'))
    (hother : ∀ reason, fault ≠ .api expected reason) :
    doneUnless expected action w = (.error (.fault fault), w') := by
  unfold doneUnless
  rw [bind_of_ok (attempt_apply action w), h]
  cases fault with
  | api status reason =>
      dsimp only
      rw [if_neg fun hstatus => hother reason (by rw [hstatus])]
      rfl
  | _ => rfl

end Answers

/-! ## Stages -/

/-- Where a client stands that makes sure of a namespace and then of its role binding: what it asks
next, or how it has ended. -/
inductive Stage
  | readNamespace
  | createNamespace (name : Yaml)
  | readBinding
  | createBinding (user : String)
  | ended (outcome : Except Halt Unit)

namespace Stage

/-- What comes once the namespace exists. -/
def afterNamespace : Run Stage := do
  if isLocal (← get).cluster.context then return .ended (.ok ()) else return .readBinding

/-- What comes once it is known that there is no role binding. -/
def afterMissing (lookup : Run String) : Run Stage := do
  if Yaml.same (← get).cluster.authProvider (.text "gcp") then
    let user ← lookup
    if user.isEmpty then fail .noCloudAccount else return .createBinding user
  else return .ended (.ok ())

/-- Say that a namespace was created. -/
def announceNamespace (name : Yaml) : Run Unit :=
  let shown := name.shown
  Console.success s!"已创建命名空间: {shown}"

/-- Say that the role binding of an account was created. -/
def announceBinding (user : String) : Run Unit :=
  Console.success s!"已为 {user} 创建 ClusterRoleBinding: {bindingName}"

/-- The next call, and what is done until the one after it. -/
def next (ns : Yaml) (lookup : Run String) : Stage → Run Stage
  | readNamespace => do
    let name ← nsOr ns
    if ← existsBy (Cluster.readNamespace name) then afterNamespace else return .createNamespace name
  | createNamespace name => do
    if ← createdBy (Cluster.createNamespace name) then announceNamespace name
    afterNamespace
  | readBinding => do
    if ← existsBy (Cluster.readBinding bindingName) then return .ended (.ok ())
    else afterMissing lookup
  | createBinding user => do
    if ← createdBy (Cluster.createBinding (bindingBody user)) then announceBinding user
    return .ended (.ok ())
  | ended outcome => return .ended outcome

/-- All that is still to be done. -/
def rest (ns : Yaml) (lookup : Run String) : Stage → Run Unit
  | readNamespace => ensureNamespace ns >>= fun _ => ensureBinding lookup
  | createNamespace name => do
    if ← createdBy (Cluster.createNamespace name) then announceNamespace name
    ensureBinding lookup
  | readBinding => do
    if !(← existsBy (Cluster.readBinding bindingName)) then
      if Yaml.same (← get).cluster.authProvider (.text "gcp") then
        let user ← lookup
        if user.isEmpty then fail .noCloudAccount
        else if ← createdBy (Cluster.createBinding (bindingBody user)) then announceBinding user
  | createBinding user => do
    if ← createdBy (Cluster.createBinding (bindingBody user)) then announceBinding user
  | ended outcome => MonadExcept.ofExcept outcome

/-- The most calls that are still to be made. -/
def left : Stage → Nat
  | readNamespace => 4
  | createNamespace _ => 3
  | readBinding => 2
  | createBinding _ => 1
  | ended _ => 0

variable {ns : Yaml} {lookup : Run String} {stage stage' : Stage} {w w' : World}

theorem afterNamespace_bind_rest (ns : Yaml) (lookup : Run String) :
    afterNamespace >>= rest ns lookup = ensureBinding lookup := by
  unfold afterNamespace ensureBinding
  rw [bind_assoc]
  refine bind_congr fun w => ?_
  cases isLocal w.cluster.context with
  | true => exact pure_bind (Stage.ended (.ok ())) (rest ns lookup)
  | false => exact pure_bind Stage.readBinding (rest ns lookup)

theorem afterMissing_bind_rest (ns : Yaml) (lookup : Run String) :
    afterMissing lookup >>= rest ns lookup = (do
      if Yaml.same (← get).cluster.authProvider (.text "gcp") then
        let user ← lookup
        if user.isEmpty then fail .noCloudAccount
        else if ← createdBy (Cluster.createBinding (bindingBody user)) then
          announceBinding user) := by
  unfold afterMissing
  rw [bind_assoc]
  refine bind_congr fun w => ?_
  cases Yaml.same w.cluster.authProvider (.text "gcp") with
  | true =>
      simp only [if_true, bind_assoc]
      refine bind_congr fun user => ?_
      cases user.isEmpty with
      | true => rfl
      | false => exact pure_bind (Stage.createBinding user) (rest ns lookup)
  | false => exact pure_bind (Stage.ended (.ok ())) (rest ns lookup)

/-- What is still to be done is the next step and what is to be done after it. -/
theorem rest_eq_next_bind (ns : Yaml) (lookup : Run String) (stage : Stage) :
    rest ns lookup stage = next ns lookup stage >>= rest ns lookup := by
  cases stage with
  | readNamespace =>
      simp only [next, rest, ensureNamespace, bind_assoc]
      refine bind_congr fun name => bind_congr fun found => ?_
      cases found with
      | true => exact (pure_bind _ _).trans (afterNamespace_bind_rest ns lookup).symm
      | false =>
          refine Eq.trans ?_ (pure_bind (Stage.createNamespace name) (rest ns lookup)).symm
          simp only [rest, announceNamespace, Bool.not_false, if_true, bind_assoc]
          refine bind_congr fun created => ?_
          cases created with
          | true => rfl
          | false => exact pure_bind _ _
  | createNamespace name =>
      simp only [next, rest, bind_assoc]
      refine bind_congr fun created => ?_
      cases created with
      | true =>
          simp only [if_true, bind_assoc, afterNamespace_bind_rest]
      | false => exact (afterNamespace_bind_rest ns lookup).symm
  | readBinding =>
      simp only [next, rest, bind_assoc]
      refine bind_congr fun found => ?_
      cases found with
      | true => exact (pure_bind (Stage.ended (.ok ())) (rest ns lookup)).symm
      | false => exact (afterMissing_bind_rest ns lookup).symm
  | createBinding user =>
      simp only [next, rest, bind_assoc]
      refine bind_congr fun created => ?_
      cases created with
      | true => simp [rest, MonadExcept.ofExcept]
      | false => exact (pure_bind (Stage.ended (.ok ())) (rest ns lookup)).symm
  | ended outcome => exact (pure_bind (Stage.ended outcome) (rest ns lookup)).symm

theorem left_of_afterNamespace (h : afterNamespace w = (.ok stage', w')) : stage'.left ≤ 2 := by
  unfold afterNamespace at h
  rw [bind_of_ok (get_apply w)] at h
  split at h <;> cases h <;> simp [left]

/-- Every step takes one of the calls that are left. -/
theorem left_next (h : next ns lookup stage w = (.ok stage', w')) :
    stage'.left ≤ stage.left - 1 := by
  cases stage with
  | readNamespace =>
      obtain ⟨name, w₁, -, h⟩ := bind_eq_ok h
      obtain ⟨found, w₂, -, h⟩ := bind_eq_ok h
      cases found with
      | true => exact Nat.le_trans (left_of_afterNamespace h) (by simp [left])
      | false =>
          cases h
          simp [left]
  | createNamespace name =>
      obtain ⟨created, w₁, -, h⟩ := bind_eq_ok h
      cases created with
      | true =>
          obtain ⟨_, w₂, -, h⟩ := bind_eq_ok h
          exact left_of_afterNamespace h
      | false => exact left_of_afterNamespace h
  | readBinding =>
      obtain ⟨found, w₁, -, h⟩ := bind_eq_ok h
      cases found with
      | true =>
          cases h
          simp [left]
      | false =>
          change afterMissing lookup w₁ = _ at h
          unfold afterMissing at h
          rw [bind_of_ok (get_apply w₁)] at h
          split at h
          · obtain ⟨user, w₂, -, h⟩ := bind_eq_ok h
            cases hempty : user.isEmpty <;> rw [hempty] at h <;> cases h
            simp [left]
          · cases h
            simp [left]
  | createBinding user =>
      obtain ⟨created, w₁, -, h⟩ := bind_eq_ok h
      cases created with
      | true =>
          obtain ⟨_, w₂, -, h⟩ := bind_eq_ok h
          cases h
          simp [left]
      | false =>
          cases h
          simp [left]
  | ended outcome =>
      cases h
      simp [left]

/-- The call that is made next, and the status that is an expected answer to it. -/
def request? (ns home : Yaml) : Stage → Option (Call × Int)
  | readNamespace => some (.readNamespace (ns.orElse home), 404)
  | createNamespace name => some (.createNamespace name, 409)
  | readBinding => some (.readBinding bindingName, 404)
  | createBinding user => some (.createBinding (bindingBody user), 409)
  | ended _ => none

/-- A step whose call is refused for another reason than the expected one fails with that refusal,
and nothing comes of it. -/
theorem next_of_refused {call : Call} {expected : Int} {fault : Fault}
    (hrequest : stage.request? ns w.cluster.ns = some (call, expected))
    (hrefused : w.cluster.refusal? call = some fault)
    (hother : ∀ reason, fault ≠ .api expected reason) :
    next ns lookup stage w = (.error (.fault fault), w.requested call) := by
  cases stage with
  | readNamespace =>
      cases hrequest
      have hread : Cluster.readNamespace (ns.orElse w.cluster.ns) w = (.error (.fault fault), _) :=
        Prod.ext (((isCall_readNamespace _).refused w fault).mpr hrefused)
          (by rw [readNamespace_apply])
      refine (bind_of_ok (nsOr_apply ns w)).trans ?_
      exact bind_of_error (doneUnless_of_fault hread hother)
  | createNamespace name =>
      cases hrequest
      have hcreate := createNamespace_of_error
        (((isCall_createNamespace name).refused w fault).mpr hrefused)
      exact bind_of_error (doneUnless_of_fault hcreate hother)
  | readBinding =>
      cases hrequest
      have hread : Cluster.readBinding bindingName w = (.error (.fault fault), _) :=
        Prod.ext (((isCall_readBinding _).refused w fault).mpr hrefused) (by rw [readBinding_apply])
      exact bind_of_error (doneUnless_of_fault hread hother)
  | createBinding user =>
      cases hrequest
      have hcreate := createBinding_of_error
        (((isCall_createBinding (bindingBody user)).refused w fault).mpr hrefused)
      exact bind_of_error (doneUnless_of_fault hcreate hother)
  | ended outcome => cases hrequest

end Stage

end PodReach.Setup
