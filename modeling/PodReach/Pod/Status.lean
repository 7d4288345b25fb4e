import PodReach.Pod.Basic
import PodReach.Text.Blank

/-!
# The status shown for a pod

One word summarises a pod, with this priority: a deletion under way; the first init container
that has not succeeded; the last container that is waiting for a reason or has ended; the
reason or phase of the pod itself. A pod in which a ready container still runs is not shown as
completed.
-/

namespace PodReach

namespace Status

/-- Statuses that resolve by themselves. -/
def waiting : List String :=
  ["ContainerCreating", "PodInitializing", "Pending", "Terminating"]

/-- Statuses that a pod does not recover from without help. -/
def critical : List String :=
  ["Error", "Unknown", "ImagePullBackOff", "CrashLoopBackOff", "RunContainerError",
    "ErrImagePull", "CreateContainerConfigError", "InvalidImageName"]

/-- Statuses of pods that can be worked with. -/
def okay : List String :=
  ["Completed", "Running"]

/-- Whether a pod with this status will not recover. -/
def isCritical (status : String) : Bool := critical.contains status

/-- Whether waiting for a pod with this status makes sense. -/
def isWaiting (status : String) : Bool := waiting.contains status

/-- Whether a pod with this status can be worked with. -/
def isOkay (status : String) : Bool := okay.contains status

/-- The colours of the statuses that have one of their own. -/
def colors : List (String × String) :=
  [("Running", "green"), ("Succeeded", "blue"), ("Completed", "dim"), ("Pending", "yellow"),
    ("ContainerCreating", "yellow"), ("PodInitializing", "yellow"), ("Init", "yellow"),
    ("Failed", "red"), ("Error", "red"), ("CrashLoopBackOff", "red"),
    ("ImagePullBackOff", "red"), ("ErrImagePull", "red"),
    ("CreateContainerConfigError", "red"), ("InvalidImageName", "red"),
    ("RunContainerError", "red"), ("Terminating", "magenta"), ("Unknown", "dim")]

/-- The colour of a status. All init statuses share one, unknown statuses are white. -/
def color (status : String) : String :=
  let key := if "Init:".toList.isPrefixOf status.toList then "Init" else status
  (colors.lookup key).getD "white"

/-- A status between its colour tags. -/
def colorize (status : String) : String :=
  let c := color status
  "[" ++ c ++ "]" ++ status ++ "[/" ++ c ++ "]"

end Status

/-- The text for a container that ended without a reason: its signal, else its exit code. -/
def Terminated.code (t : Terminated) : String :=
  match t.signal with
  | some n => if n ≠ 0 then s!"Signal:{n}" else s!"ExitCode:{t.exitCode.getD 0}"
  | none => s!"ExitCode:{t.exitCode.getD 0}"

/-- The reason a container ended, or its code. -/
def Terminated.describe (t : Terminated) : String :=
  (Text.nonempty t.reason).getD t.code

namespace ContainerStatus

/-- How the container ended, if it did. -/
def ended (s : ContainerStatus) : Option Terminated :=
  s.state.bind (·.terminated)

/-- The non-empty reason that the container waits for, if any. -/
def waitReason (s : ContainerStatus) : Option String :=
  Text.nonempty ((s.state.bind (·.waiting)).bind (·.reason))

/-- Whether an init container is done: it ended with exit code zero. -/
def succeeded (s : ContainerStatus) : Bool :=
  s.ended.any fun t => t.exitCode == some 0

/-- Whether a main container is ready and running. -/
def readyAndRunning (s : ContainerStatus) : Bool :=
  s.ready && s.state.any (·.running)

/-- What a main container says about its pod: why it waits, or how it ended. -/
def verdict (s : ContainerStatus) : Option String :=
  match s.waitReason with
  | some reason => some reason
  | none => s.ended.map (·.describe)

/-- What an init container that has not succeeded says about its pod. -/
def initVerdict (index total : Nat) (s : ContainerStatus) : String :=
  match s.ended with
  | some t => "Init:" ++ t.describe
  | none =>
    match s.waitReason with
    | some reason =>
      if reason == "PodInitializing" then s!"Init:{index}/{total}" else "Init:" ++ reason
    | none => s!"Init:{index}/{total}"

end ContainerStatus

namespace Pod

/-- The verdict of the first init container that has not succeeded, counted from `index`. -/
def initStatusFrom (total : Nat) : Nat → List ContainerStatus → Option String
  | _, [] => none
  | index, s :: rest =>
    if s.succeeded then initStatusFrom total (index + 1) rest
    else some (s.initVerdict index total)

/-- What the main containers make of a base status: the last one with a verdict decides, but a
completed pod in which a container still runs is running. -/
def mainStatus (base : String) (containers : List ContainerStatus) : String :=
  let chosen := (containers.reverse.findSome? (·.verdict)).getD base
  if chosen == "Completed" && containers.any (·.readyAndRunning) then "Running" else chosen

/-- The reason of a pod if it has one, else its phase. -/
def baseStatus (status : PodStatus) : String :=
  (Text.nonempty status.reason).getD (status.phase.getD "")

/-- The status of a pod that is not being deleted. -/
def liveStatus (spec : Option PodSpec) (status : PodStatus) : String :=
  let total := (spec.map (·.initContainers)).getD 0
  match initStatusFrom total 0 status.initContainers with
  | some verdict => verdict
  | none => mainStatus (baseStatus status) status.containers

/-- The status of a pod with these parts. -/
def statusOf (metadata : Metadata) (spec : Option PodSpec) (status : PodStatus) : String :=
  if metadata.deleting then
    if status.reason == some "NodeLost" then "Unknown" else "Terminating"
  else liveStatus spec status

/-- The status of a pod; a pod without metadata or status has none. -/
def status? (pod : Pod) : Option String :=
  match pod.metadata, pod.status with
  | some metadata, some status => some (statusOf metadata pod.spec status)
  | _, _ => none

end Pod
end PodReach
