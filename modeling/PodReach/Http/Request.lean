import PodReach.Http.Url
import PodReach.Json.Value
import PodReach.Text.Integer

/-!
# Requests to the API

The request that each operation on the cluster stands for: method, path, query and body. Parts
of a path are percent-encoded, and the query of an address is in the order of its keys.
-/

namespace PodReach.Http

/-- How a request is made; a stream is a connection that stays open in both directions. -/
inductive Method
  | get
  | post
  | patch
  | stream
  deriving DecidableEq, Repr, Inhabited

/-- A request to a server. -/
structure Request where
  method : Method
  path : String
  query : List (String × String)
  body : Option Json
  deriving Inhabited

/-- The operations on a cluster. -/
inductive Operation
  | listPods (ns : String) (selector : Option String)
  | readPod (name ns : String)
  | readNamespace (name : String)
  | createNamespace (name : Option String)
  | readBinding (name : String)
  | createBinding (body : Json)
  | readDeployment (name ns : String)
  | readServiceAccount (name ns : String)
  | patchServiceAccount (name ns : String) (body : Json)
  | openStream (pod ns : String) (container : Option String) (command : List String)
      (tty stdin : Bool)
  | openPortForward (pod ns : String) (ports : List String)
  | readLog (pod ns : String) (container : Option String) (follow : Bool) (tail : Option String)
  deriving Inhabited

/-- The server that a cluster without an address stands for. -/
def usualServer : String := "http://localhost"

/-- The address of the server that a program inside a cluster talks to. A host with colons is put
into brackets. -/
def serverInside (host port : String) : String :=
  let shown := if Text.contains host ":" || Text.contains host "%" then s!"[{host}]" else host
  s!"https://{shown}:{port}"

/-- A truth value in a query. -/
def flag (b : Bool) : String := if b then "True" else "False"

/-- A query in the order of its keys; values of one key stay in order. -/
def inKeyOrder (query : List (String × String)) : List (String × String) :=
  query.mergeSort fun a b => a.1 ≤ b.1

/-- Where a request to a server goes; nothing if its address cannot be read. A query in the address
of the server is kept, but not for a stream. -/
def Request.url? (r : Request) (server : String) : Option Url := do
  let url ← Url.read? (server ++ r.path)
  match r.method with
  | .stream => some (url.opened (inKeyOrder r.query))
  | _ => some { url with query := inKeyOrder (url.query ++ r.query) }

/-- A path from its parts. -/
def pathOf (start : String) (parts : List String) : String :=
  start ++ String.join (parts.map fun part => "/" ++ Text.percentEncode part)

/-- A value of a query, if it is given. -/
def given (key : String) (value : Option String) : List (String × String) :=
  (value.map fun v => (key, v)).toList

namespace Operation

/-- The path of an object in a namespace. -/
def objectPath (ns kind : String) (rest : List String) : String :=
  pathOf "/api/v1/namespaces" (ns :: kind :: rest)

/-- The path of the role bindings. -/
def bindings (rest : List String) : String :=
  pathOf "/apis/rbac.authorization.k8s.io/v1/clusterrolebindings" rest

/-- The request for an operation. A stream without a command is attached to the main process. -/
def request : Operation → Request
  | listPods ns selector =>
    ⟨.get, objectPath ns "pods" [], given "labelSelector" selector, none⟩
  | readPod name ns => ⟨.get, objectPath ns "pods" [name], [], none⟩
  | readNamespace name => ⟨.get, pathOf "/api/v1/namespaces" [name], [], none⟩
  | createNamespace name =>
    let metadata := (name.map fun n => ("name", Json.text n)).toList
    ⟨.post, "/api/v1/namespaces", [], some (.object [("metadata", .object metadata)])⟩
  | readBinding name => ⟨.get, bindings [name], [], none⟩
  | createBinding body => ⟨.post, bindings [], [], some body⟩
  | readDeployment name ns =>
    ⟨.get, pathOf "/apis/apps/v1/namespaces" [ns, "deployments", name], [], none⟩
  | readServiceAccount name ns => ⟨.get, objectPath ns "serviceaccounts" [name], [], none⟩
  | patchServiceAccount name ns body =>
    ⟨.patch, objectPath ns "serviceaccounts" [name], [], some body⟩
  | openStream pod ns container command tty stdin =>
    let action := if command.isEmpty then "attach" else "exec"
    ⟨.stream, objectPath ns "pods" [pod, action],
      command.map (("command", ·)) ++ given "container" container
        ++ [("stderr", flag !tty), ("stdin", flag stdin), ("stdout", flag true), ("tty", flag tty)],
      none⟩
  | openPortForward pod ns ports =>
    ⟨.stream, objectPath ns "pods" [pod, "portforward"], [("ports", ",".intercalate ports)], none⟩
  | readLog pod ns container follow tail =>
    ⟨.get, objectPath ns "pods" [pod, "log"],
      given "container" (Text.nonempty container) ++ [("follow", flag follow)]
        ++ given "tailLines" tail, none⟩

/-- Whether ports can be forwarded: they are numbers of ports, at least one and none twice. -/
def forwardable (ports : List String) : Bool :=
  match ((Text.split ',' (",".intercalate ports)).mapM Text.readInteger?) with
  | some numbers => numbers.all (fun n => 0 < n && n < 65536) && numbers.eraseDups == numbers
  | none => false

/-- Whether an operation is requested at all: ports that cannot be forwarded are refused at
once. -/
def isSound : Operation → Bool
  | openPortForward _ _ ports => forwardable ports
  | _ => true

end Operation

end PodReach.Http
