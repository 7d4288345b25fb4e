import PodReach.Fault
import PodReach.Pod.Status

/-!
# Judging one list of pods

Two questions about a list of pods at one moment: which pods that use an image are running, if
none of them has to be waited for, and which pod is the newest.
-/

namespace PodReach.Discovery

/-- A part of a pod that has to be there. -/
def part {α : Type} : Option α → Except Halt α
  | some a => .ok a
  | none => .error (.mistake .noSuchPart)

/-- What a list of pods says about the pods that use an image. -/
inductive Collected
  | ready (pods : List Pod)
  | wait
  deriving DecidableEq, Repr, Inhabited

/-- What one pod contributes: nothing, itself, or a reason to wait. -/
inductive Contribution
  | nothing
  | itself
  | wait
  deriving DecidableEq, Repr, Inhabited

/-- What a pod of a given status contributes if it uses one of the images. -/
def contributionOf (name : Option String) (status : String) : Except Halt Contribution :=
  if Status.isCritical status then .error (.failed (.criticalPod name status))
  else if status == "Completed" then .ok .nothing
  else if status == "Running" then .ok .itself
  else .ok .wait

/-- What the containers of a pod make of its status, one after another: the first one with an
accepted image decides, and without one the pod contributes nothing, whatever its status. -/
def contributionAmong (images : List String) (name : Option String) (status : String) :
    List Container → Except Halt Contribution
  | [] => .ok .nothing
  | c :: rest =>
    if Pod.imageAccepted images c.image then contributionOf name status
    else contributionAmong images name status rest

/-- What a pod contributes. -/
def contribution (images : List String) (pod : Pod) : Except Halt Contribution := do
  let status ← part pod.status?
  let spec ← part pod.spec
  contributionAmong images pod.name? status spec.containers

/-- It makes no difference how many containers have an accepted image. -/
theorem contributionAmong_eq (images : List String) (name : Option String) (status : String)
    (containers : List Container) :
    contributionAmong images name status containers =
      if containers.any fun c => Pod.imageAccepted images c.image then contributionOf name status
      else .ok .nothing := by
  induction containers with
  | nil => rfl
  | cons c rest ih =>
      rw [contributionAmong, ih, List.any_cons]
      cases Pod.imageAccepted images c.image <;> rfl

/-- What a pod contributes of which nothing is missing. -/
theorem contribution_of_parts {images : List String} {pod : Pod} {status : String} {spec : PodSpec}
    (hstatus : pod.status? = some status) (hspec : pod.spec = some spec) :
    contribution images pod =
      if Pod.hasImage images spec then contributionOf pod.name? status else .ok .nothing := by
  rw [contribution, hstatus, hspec]
  exact contributionAmong_eq images pod.name? status spec.containers

/-- The running pods that use one of the images, in order, unless one of the pods that use them
has to be waited for. The first pod that is neither running nor completed decides. -/
def collect (images : List String) : List Pod → Except Halt Collected
  | [] => .ok (.ready [])
  | pod :: rest => do
    match ← contribution images pod with
    | .wait => .ok .wait
    | .nothing => collect images rest
    | .itself =>
      match ← collect images rest with
      | .wait => .ok .wait
      | .ready pods => .ok (.ready (pod :: pods))

/-- Whether a pod takes the place of the newest one found so far: it is strictly newer, and uses
one of the images if there are any. -/
def replaces (images : List String) (selected : Option Pod) (pod : Pod) : Except Halt Bool := do
  let newer ← match selected with
    | none => .ok true
    | some best => do
      let metadata ← part pod.metadata
      let bestMetadata ← part best.metadata
      .ok !(Double.le (Pod.createdAt metadata) (Pod.createdAt bestMetadata))
  if !newer then .ok false
  else if images.isEmpty then .ok true
  else do
    let spec ← part pod.spec
    .ok (Pod.hasImage images spec)

/-- The newest pod of a list that uses one of the images, given the newest one before it. -/
def newestFrom (images : List String) : Option Pod → List Pod → Except Halt (Option Pod)
  | selected, [] => .ok selected
  | selected, pod :: rest => do
    if ← replaces images selected pod then newestFrom images (some pod) rest
    else newestFrom images selected rest

/-- The newest pod of a list that uses one of the images; of equally new ones the first. -/
def newest (images : List String) (pods : List Pod) : Except Halt (Option Pod) :=
  newestFrom images none pods

end PodReach.Discovery
