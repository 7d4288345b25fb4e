import PodReach.Discovery.Resolve
import PodReach.Pod.Display

/-!
# The target of a command

Commands on a container first find it. A selector without conditions lets someone choose among
the running pods, and a pod with several containers lets them choose the container.
-/

namespace PodReach.Command

open Run Cluster Discovery

/-- Let someone choose a running pod of the namespace; the selector for it, or nothing. -/
def chooseSelector (selector : Selector) : Run (Option Selector) := do
  let ns := selector.nsOr (← get).cluster.ns
  let pods ← listPods ns ""
  let statuses ← need (pods.mapM fun pod => pod.status?.map fun status => (pod, status))
  let running := (statuses.filter fun (_, status) => status == "Running").map (·.1)
  if running.isEmpty then
    let shown := ns.shown
    Console.warning s!"命名空间 {shown} 中没有运行中的 Pod"
    return none
  else match ← Pod.choose running Pod.usualQuestion with
    | none => return none
    | some pod =>
      let metadata ← need pod.metadata
      return some { selector with podName := metadata.name }

/-- Let someone choose the container, once the waiting is over. -/
def containerPicker (interactive : Bool) : Picker := fun containers => do
  Console.display .spinnerStopped
  if interactive then Container.choose containers Container.usualQuestion else return none

/-- Wait for the pod and the container that a selector means. -/
def resolveSelector (selector : Selector) (interactive : Bool) : Run (Pod × Container) := do
  Console.spinner s!"[cyan]正在等待 {selector.describe} 的 Pod 就绪...[/cyan]"
  resolveNewest selector (some (containerPicker interactive)) Search.usualInterval
    Search.usualGrace

/-- The target of a command; nothing if someone goes back instead of choosing a pod. -/
def resolveTarget (selector : Selector) (interactive : Bool) : Run (Option (Pod × Container)) := do
  if selector.isEmpty && interactive then
    match ← chooseSelector selector with
    | none => return none
    | some chosen => return some (← resolveSelector chosen interactive)
  else return some (← resolveSelector selector interactive)

end PodReach.Command
