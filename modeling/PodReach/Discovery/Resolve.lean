import PodReach.Discovery.Wait

/-!
# From a selector to a pod and a container

A selector with a pod name is resolved by reading that pod, any other by a search. Within the
pod a container name decides; otherwise the only container, the first one with a selected
image, the one that is picked, or the first one.
-/

namespace PodReach.Discovery

open Run Cluster

/-- A way to let someone pick one of several containers, or none. -/
abbrev Picker := List Container → Run (Option Container)

/-- Whether a container has one of the selected images. -/
def hasSelectedImage (images : List String) (c : Container) : Bool :=
  match c.image with
  | some image => images.contains image
  | none => false

/-- The container of several that no name decides. -/
def preferredContainer (images : List String) (picker : Option Picker) (first : Container)
    (containers : List Container) : Run Container := do
  match containers.find? (hasSelectedImage images) with
  | some c => pure c
  | none =>
    match picker with
    | none => pure first
    | some pick => return (← pick containers).getD first

/-- The container of a pod that a selector means. -/
def selectContainer (pod : Pod) (selector : Selector) (picker : Option Picker) :
    Run Container := do
  let spec ← need pod.spec
  match spec.containers with
  | [] => do
    let metadata ← need pod.metadata
    fail (.noContainers (Text.orNone metadata.name))
  | first :: rest =>
    match Text.nonempty selector.containerName with
    | some name =>
      match (first :: rest).find? fun c => c.name == some name with
      | some c => pure c
      | none => do
        let metadata ← need pod.metadata
        fail (.noSuchContainer (Text.orNone metadata.name) name)
    | none =>
      if rest.isEmpty then pure first
      else preferredContainer selector.images picker first (first :: rest)

/-- The pod of a name, unless it will not recover. -/
def readNamedPod (name : String) (ns : Yaml) : Run Pod := do
  let pod ← readPod (some name) ns
  let status ← need pod.status?
  if Status.isCritical status then fail (.criticalPod pod.name? status) else pure pod

/-- The search that a selector without a pod name stands for. -/
def searchFor (selector : Selector) (ns : Yaml) (interval : Double) : Search :=
  ⟨ns, selector.labels, selector.images, interval⟩

/-- All running pods that a selector means. -/
def resolvePods (selector : Selector) (interval minWait : Double) : Run (List Pod) := do
  let ns := selector.nsOr (← get).cluster.ns
  match Text.nonempty selector.podName with
  | some name => return [← readNamedPod name ns]
  | none => runningPodsWithImage (searchFor selector ns interval) selector.maxWait minWait

/-- The newest running pod that a selector means. -/
def resolveNewestPod (selector : Selector) (interval grace : Double) : Run Pod := do
  let ns := selector.nsOr (← get).cluster.ns
  match Text.nonempty selector.podName with
  | some name => readNamedPod name ns
  | none => newestRunningPod (searchFor selector ns interval) selector.maxWait grace

/-- The pod and the container that a selector means. -/
def resolveNewest (selector : Selector) (picker : Option Picker) (interval grace : Double) :
    Run (Pod × Container) := do
  let pod ← resolveNewestPod selector interval grace
  return (pod, ← selectContainer pod selector picker)

end PodReach.Discovery
