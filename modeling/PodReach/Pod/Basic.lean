import PodReach.Instant

/-!
# Pods as the cluster reports them

A snapshot of a pod: its metadata, the containers it declares and what is known about each of
them. Everything the cluster may leave out is optional.
-/

namespace PodReach

/-- How a container ended. -/
structure Terminated where
  reason : Option String
  signal : Option Int
  exitCode : Option Int
  deriving DecidableEq, Repr, Inhabited

/-- Why a container has not started. -/
structure Waiting where
  reason : Option String
  deriving DecidableEq, Repr, Inhabited

/-- The state of a container. At most one part is present in practice, but any combination
may be reported. -/
structure ContainerState where
  running : Bool
  waiting : Option Waiting
  terminated : Option Terminated
  deriving DecidableEq, Repr, Inhabited

/-- What is known about one container of a running pod. -/
structure ContainerStatus where
  ready : Bool
  restarts : Int
  state : Option ContainerState
  deriving DecidableEq, Repr, Inhabited

/-- A container as declared. -/
structure Container where
  name : Option String
  image : Option String
  tty : Bool
  stdin : Bool
  deriving DecidableEq, Repr, Inhabited

/-- The identity of a pod. -/
structure Metadata where
  name : Option String
  ns : Option String
  labels : List (String × String)
  created : Option Instant
  deleting : Bool
  deriving DecidableEq, Repr, Inhabited

/-- The declared part of a pod. -/
structure PodSpec where
  containers : List Container
  initContainers : Nat
  deriving DecidableEq, Repr, Inhabited

/-- The observed part of a pod. -/
structure PodStatus where
  phase : Option String
  reason : Option String
  containers : List ContainerStatus
  initContainers : List ContainerStatus
  deriving DecidableEq, Repr, Inhabited

/-- A snapshot of a pod. -/
structure Pod where
  metadata : Option Metadata
  spec : Option PodSpec
  status : Option PodStatus
  deriving DecidableEq, Repr, Inhabited

namespace Pod

/-- The name of a pod, missing when the pod has no metadata or no name. -/
def name? (pod : Pod) : Option String :=
  pod.metadata.bind (·.name)

/-- The namespace a pod reports. -/
def ns? (pod : Pod) : Option String :=
  pod.metadata.bind (·.ns)

/-- The creation time that pods are ordered by: a missing one counts as the epoch. -/
def createdAt (metadata : Metadata) : Double :=
  match metadata.created with
  | some t => t.timestamp
  | none => .finite 0

/-- Whether an image is accepted by a list of images; the empty list accepts every image. -/
def imageAccepted (images : List String) (image : Option String) : Bool :=
  images.isEmpty || (match image with | some i => images.contains i | none => false)

/-- Whether a pod has a container with an accepted image. -/
def hasImage (images : List String) (spec : PodSpec) : Bool :=
  spec.containers.any fun c => imageAccepted images c.image

/-- Whether a label is present with exactly this value. -/
def hasLabel (pod : Pod) (label : String × String) : Bool :=
  match pod.metadata with
  | some m => m.labels.lookup label.1 == some label.2
  | none => false

end Pod
end PodReach
