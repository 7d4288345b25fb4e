import PodReach.Command.Target
import PodReach.Setup

/-!
# Commands on the pods of a namespace

Listing them with their status, waiting for all pods of an image, and preparing the namespace.
-/

namespace PodReach.Command

open Run Cluster Discovery

/-- Sort pods by name, by code points, equal names staying in order. Several pods can only be
sorted if all of them have names. -/
def sortByName (pods : List Pod) : Except Halt (List Pod) := do
  let named ← pods.mapM fun pod => do
    let metadata ← part pod.metadata
    pure (metadata.name, pod)
  if named.length ≥ 2 && named.any (·.1.isNone) then .error (.mistake .wrongKind)
  else .ok ((named.mergeSort fun a b => decide (a.1.getD "" ≤ b.1.getD "")).map (·.2))

/-- Warn about every pod that will not recover. -/
def warnAboutBroken (pods : List Pod) : Run Unit := do
  let broken ← need (pods.mapM fun pod => do
    let status ← pod.status?
    some (Text.orNone pod.name?, status))
  let broken := broken.filter fun (_, status) => Status.isCritical status
  if !broken.isEmpty then
    Console.line ""
    broken.forM fun (name, status) => Console.warning s!"{name} 处于 {status}，需要人工处理"

/-- List the pods of a namespace with their status. -/
def listPodsOf (ns : Yaml) (labels : String) (deployment : Option String) : Run Unit := do
  let ns ← Setup.nsOr ns
  let shown := ns.shown
  Console.info s!"正在获取 {shown} 命名空间的 Pods..."
  Console.line ""
  let pods ← match Text.nonempty deployment with
    | some name => Setup.deploymentPods name ns
    | none => listPods ns labels
  if pods.isEmpty then Console.warning "当前命名空间下没有任何 Pod"
  else
    let sorted ← MonadExcept.ofExcept (sortByName pods)
    Pod.showTable sorted s!"Pods ({shown})"
    warnAboutBroken sorted

/-- Wait until all pods that a selector means are running. -/
def waitForPods (selector : Selector) : Run (List Pod) := do
  Console.spinner s!"[cyan]正在等待 {selector.describe} 的 Pod 就绪...[/cyan]"
  let pods ← resolvePods selector Search.usualInterval Search.usualMinWait
  if pods.isEmpty then
    Console.warning "没有找到使用这些镜像的 Running Pod"
  else
    Console.success s!"{pods.length} 个 Pod 已就绪"
    Pod.showTable pods "就绪的 Pods"
  return pods

/-- Prepare a namespace: it exists, the account has its rights, and the pull secrets are known. -/
def initCluster (ns : Yaml) (secrets : List String) : Run Unit := do
  let ns ← Setup.nsOr ns
  Setup.ensureNamespace ns
  Setup.ensureBinding Setup.cloudAccount
  if !secrets.isEmpty then
    if ← Setup.addPullSecrets secrets ns "default" then
      let joined := ", ".intercalate secrets
      Console.success s!"已把 {joined} 添加到 default ServiceAccount"
    else Console.info "镜像拉取密钥无需更新"
  let shown := ns.shown
  Console.success s!"命名空间 {shown} 已准备就绪"

end PodReach.Command
