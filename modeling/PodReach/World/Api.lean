import PodReach.World.Effects

/-!
# The cluster's services

Each request is first recorded, then refused if its service is broken, then answered from the
objects of the cluster. Creations and patches change it.
-/

namespace PodReach

namespace Cluster

open Run

/-- Change the cluster. -/
def update (f : Cluster → Cluster) : Run Unit :=
  modify fun w => { w with cluster := f w.cluster }

/-- Record a request, and refuse it if its service is broken. -/
def request (service : Service) (call : Call) : Run Unit := do
  record (.call call)
  let cluster := (← get).cluster
  update fun c => { c with requests := c.requests + 1 }
  unlessBroken (cluster.broken service cluster.requests)

/-- An object that was looked for, or the answer that there is none. -/
def found {α : Type} : Option α → Run α
  | some a => pure a
  | none => throw (.fault .notFound)

/-- A name by which something can be looked up: a mapping, a list or a set is none. -/
def lookupName (name : Yaml) : Run Unit :=
  if name.hashable then pure () else throw (.mistake .wrongKind)

/-- One term of a label selector as a pair: cut at its first equals sign, without blanks around key
and value. Without an equals sign the value is empty. -/
def selectorTerm (term : String) : String × String :=
  match Text.cutAtFirst '=' term.toList with
  | some (key, value) => (Text.strip (String.ofList key), Text.strip (String.ofList value))
  | none => (Text.strip term, "")

/-- A label selector as pairs, one for each term between commas; the empty selector has none. -/
def selectorTerms (selector : String) : List (String × String) :=
  if selector.isEmpty then [] else (Text.split ',' selector).map selectorTerm

/-- Whether a pod lies in a namespace. -/
def liesIn (ns : Yaml) (pod : Pod) : Bool :=
  Yaml.same (.ofText? pod.ns?) ns

/-- Whether a pod lies in a namespace and carries the labels of a selector. -/
def selects (ns : Yaml) (selector : String) (pod : Pod) : Bool :=
  liesIn ns pod && (selectorTerms selector).all fun term => pod.hasLabel term

/-- The pods of a namespace that a label selector selects. -/
def listPods (ns : Yaml) (selector : String) : Run (List Pod) := do
  request .listPods (.listPods ns selector)
  let cluster := (← get).cluster
  update fun c => { c with listed := c.listed + 1 }
  match cluster.listAnswers cluster.listed with
  | .ok pods => pure (pods.filter (selects ns selector))
  | .error fault => throw (.fault fault)

/-- The pod of a name in a namespace. -/
def readPod (name : Option String) (ns : Yaml) : Run Pod := do
  request .readPod (.readPod name ns)
  found ((← get).cluster.pods.find? fun pod => pod.name? == name && liesIn ns pod)

/-- Whether a namespace exists. -/
def readNamespace (name : Yaml) : Run Unit := do
  request .readNamespace (.readNamespace name)
  lookupName name
  if (← get).cluster.namespaces.any (Yaml.same name) then pure () else throw (.fault .notFound)

/-- Create a namespace that does not exist yet. -/
def createNamespace (name : Yaml) : Run Unit := do
  request .createNamespace (.createNamespace name)
  lookupName name
  if (← get).cluster.namespaces.any (Yaml.same name) then throw (.fault .conflict)
  else update fun c => { c with namespaces := c.namespaces ++ [name] }

/-- Whether a cluster has a role binding of a name. -/
def hasBinding (cluster : Cluster) (name : String) : Bool :=
  (cluster.bindings.lookup name).isSome

/-- Whether a cluster role binding exists. -/
def readBinding (name : String) : Run Unit := do
  request .readBinding (.readBinding name)
  if (← get).cluster.hasBinding name then pure () else throw (.fault .notFound)

/-- The text of a value; anything else has none. -/
def textOf? : Json → Option String
  | .text s => some s
  | _ => none

/-- The name that a body gives to its object; empty if it gives none. -/
def nameIn (body : Json) : String :=
  (textOf? ((body.part "metadata").part "name")).getD ""

/-- Create a cluster role binding that does not exist yet. -/
def createBinding (body : Json) : Run Unit := do
  request .createBinding (.createBinding body)
  if (← get).cluster.hasBinding (nameIn body) then throw (.fault .conflict)
  else update fun c => { c with bindings := c.bindings ++ [(nameIn body, body)] }

/-- The deployment of a name in a namespace. -/
def readDeployment (name : String) (ns : Yaml) : Run Deployment := do
  request .readDeployment (.readDeployment name ns)
  lookupName ns
  found ((← get).cluster.deployments.find? fun d => d.name == name && Yaml.same (.text d.ns) ns)

/-- The service account of a name in a namespace. -/
def readServiceAccount (name : String) (ns : Yaml) : Run ServiceAccount := do
  request .readServiceAccount (.readServiceAccount name ns)
  lookupName ns
  found ((← get).cluster.accounts.find? fun a => a.name == name && Yaml.same (.text a.ns) ns)

/-- The change to a service account that gives it these pull secrets. -/
def secretsPatch (secrets : List String) : Json :=
  .object [("imagePullSecrets", .list (secrets.map fun s => .object [("name", .text s)]))]

/-- The pull secrets that a change to a service account names. -/
def secretsIn (body : Json) : List String :=
  (body.part "imagePullSecrets").items.filterMap fun item => textOf? (item.part "name")

/-- Give a service account the pull secrets that a change names. -/
def patchServiceAccount (name : String) (ns : Yaml) (body : Json) : Run Unit := do
  request .patchServiceAccount (.patchServiceAccount name ns body)
  lookupName ns
  update fun c => { c with accounts := c.accounts.map fun a =>
    if a.name == name && Yaml.same (.text a.ns) ns then { a with secrets := secretsIn body }
    else a }

/-- Open a stream to a container: its main process, or a command in it. -/
def openStream (pod : Option String) (ns : Yaml) (container : Option String)
    (command : Option (List String)) (tty : Bool) : Run StreamScript := do
  request .openStream (.openStream pod ns container command tty)
  match (← get).cluster.streams with
  | [] => pure .silent
  | script :: rest =>
    update fun c => { c with streams := rest }
    unlessBroken script.refusal
    return script

/-- Begin to read the log of a container. -/
def readLog (pod : Option String) (ns : Yaml) (container : Option String) (follow : Bool)
    (tail : Yaml) : Run (List (Except Fault (List UInt8))) := do
  request .readLog (.readLog pod ns container follow tail)
  return (← get).cluster.log

end Cluster

/-- Run another program and wait for it: its exit code, output and error output. -/
def runProcess (command : List String) (timeout : Yaml) : Run (Int × String × String) := do
  Run.record (.call (.process command timeout))
  match (← get).process with
  | .finished code out err => pure (code, out, err)
  | .timedOut => pure (1, "", "命令执行超时")
  | .missing =>
    let some name := command.head? | throw (.mistake .noSuchPlace)
    pure (1, "", s!"未找到 {name} 命令，请确认已安装并在 PATH 中")

end PodReach
