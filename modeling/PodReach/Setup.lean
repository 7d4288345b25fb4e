import PodReach.World.Api

/-!
# Preparing a namespace

Making sure that a namespace and the role binding of the current cloud account exist, taking
selectors from deployments, and adding image pull secrets to a service account. Objects that
someone else creates in the meantime are as good as one's own.
-/

namespace PodReach.Setup

open Run Cluster

/-- The namespace that is meant: the given one, or that of the client. -/
def nsOr (ns : Yaml) : Run Yaml := do
  return ns.orElse (← get).cluster.ns

/-- Do something that one status is an expected answer to; whether it was done. Any other answer
than that is an error. -/
def doneUnless (expected : Int) (action : Run Unit) : Run Bool := do
  match ← attempt action with
  | .ok _ => return true
  | .error (.fault (.api status reason)) =>
    if status = expected then return false else throw (.fault (.api status reason))
  | .error halt => throw halt

/-- Whether an object exists, by reading it. -/
def existsBy (read : Run Unit) : Run Bool :=
  doneUnless 404 read

/-- Create an object; false if it exists by now. -/
def createdBy (create : Run Unit) : Run Bool :=
  doneUnless 409 create

/-- Make sure that a namespace exists. -/
def ensureNamespace (ns : Yaml) : Run Unit := do
  let name ← nsOr ns
  if !(← existsBy (readNamespace name)) then
    if ← createdBy (createNamespace name) then
      let shown := name.shown
      Console.success s!"已创建命名空间: {shown}"

/-- The contexts of clusters on this machine. -/
def localContexts : List String := ["minikube", "docker-desktop", "docker-for-desktop"]

/-- Whether a context is a cluster on this machine. -/
def isLocal (context : String) : Bool := localContexts.contains context

/-- The role binding that gives the current account its rights. -/
def bindingName : String := "devkube-user"

/-- A role binding that makes an account an administrator of the cluster. -/
def bindingBody (account : String) : Json :=
  let group := Json.text "rbac.authorization.k8s.io"
  .object [
    ("apiVersion", .text "rbac.authorization.k8s.io/v1"),
    ("kind", .text "ClusterRoleBinding"),
    ("metadata", .object [("name", .text bindingName)]),
    ("subjects", .list [.object [("kind", .text "User"), ("name", .text account),
      ("apiGroup", group)]]),
    ("roleRef", .object [("apiGroup", group), ("kind", .text "ClusterRole"),
      ("name", .text "cluster-admin")])]

/-- The account that is logged in to the cloud; empty if there is none. -/
def cloudAccount : Run String := do
  let (code, out, _) ←
    runProcess ["gcloud", "config", "list", "account", "--format", "value(core.account)"]
      (.integer 30)
  return if code = 0 then Text.strip out else ""

/-- Make sure that the account of a Google cloud cluster has its role binding. -/
def ensureBinding (account : Run String) : Run Unit := do
  if !isLocal (← get).cluster.context then
    if !(← existsBy (readBinding bindingName)) then
      if Yaml.same (← get).cluster.authProvider (.text "gcp") then
        let user ← account
        if user.isEmpty then fail .noCloudAccount
        else if ← createdBy (createBinding (bindingBody user)) then
          Console.success s!"已为 {user} 创建 ClusterRoleBinding: {bindingName}"

/-- A list of labels as a selector. -/
def selectorOf (labels : List (String × String)) : String :=
  ",".intercalate (labels.map fun (key, value) => s!"{key}={value}")

/-- The selector of a deployment's pods. A deployment without labels has none. -/
def deploymentSelector (deployment : String) (ns : Yaml) : Run String := do
  let found ← readDeployment deployment (← nsOr ns)
  match found.matchLabels with
  | some (label :: rest) => return selectorOf (label :: rest)
  | _ => fail (.noMatchLabels deployment)

/-- The pods of a deployment. -/
def deploymentPods (deployment : String) (ns : Yaml) : Run (List Pod) := do
  let ns ← nsOr ns
  let selector ← deploymentSelector deployment ns
  listPods ns selector

/-- Give a service account the pull secrets it does not have yet; whether there were any. An
account that cannot be read is left alone. -/
def addPullSecrets (secrets : List String) (ns : Yaml) (account : String) : Run Bool := do
  let ns ← nsOr ns
  match ← attempt (readServiceAccount account ns) with
  | .ok found =>
    let missing := secrets.filter fun s => !found.secrets.contains s
    if missing.isEmpty then return false
    else
      patchServiceAccount account ns (secretsPatch (found.secrets ++ missing))
      return true
  | .error (.fault (.api _ reason)) =>
    let why := Fault.reasonText reason
    let shown := ns.shown
    Log.write .error (s!"找不到命名空间 {shown} 中的 ServiceAccount '" ++ account ++ s!"': {why}")
    return false
  | .error halt => throw halt

end PodReach.Setup
