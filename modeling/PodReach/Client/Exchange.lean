import PodReach.Client
import PodReach.Pod.Reading

/-!
# Exchanges with a server

An operation on the cluster is one request and what is read from the answer. The request is
checked before it is made; an answer that reports no success is a fault, and what it should have
said does not matter then.
-/

namespace PodReach

/-- What the answer to an operation says. -/
inductive Reply
  /-- The names and the statuses of pods. -/
  | pods (statuses : List (Option String × String))
  /-- The name and the status of a pod. -/
  | pod (name : Option String) (status : String)
  /-- The labels that a deployment selects its pods by. -/
  | labels (labels : Json)
  /-- The names of the pull secrets of a service account. -/
  | secrets (names : List Json)
  /-- The pieces of a log, after which the answer is released. -/
  | log (pieces : List (List UInt8))
  /-- The name of an object. -/
  | name (name : Json)
  deriving Inhabited

namespace Client

/-- The request for an operation, and the address that it goes to. -/
def request (client : Client) (op : Http.Operation) : Except Mistake (Http.Request × Http.Url) :=
  match op.isSound, op.request.url? client.server with
  | true, some url => .ok (op.request, url)
  | _, _ => .error .badValue

/-- The status of a pod as it is written down, with its name. -/
def statusIn (pod : Json) : Except Halt (Option String × String) := do
  (Pod.nameAndStatus (← Pod.read pod)).mapError .mistake

/-- The statuses of the pods in an answer. All pods are read before any status is told. -/
def statusesIn (pods : Json) : Except Halt (List (Option String × String)) := do
  match pods with
  | .list items =>
    let read ← items.mapM Pod.read
    read.mapM fun pod => (Pod.nameAndStatus pod).mapError .mistake
  | _ => throw (.mistake .wrongKind)

/-- What the body of an answer says about an operation. -/
def readBody (op : Http.Operation) (response : Response) : Except Halt Reply :=
  let body := response.body
  match op with
  | .listPods .. => return .pods (← statusesIn (body.part "items"))
  | .readPod .. => do
    let (name, status) ← statusIn body
    return .pod name status
  | .readDeployment .. => return .labels (((body.part "spec").part "selector").part "matchLabels")
  | .readServiceAccount .. | .patchServiceAccount .. =>
    return .secrets ((body.part "imagePullSecrets").items.map fun secret => secret.part "name")
  | .readLog .. => return .log response.pieces
  | _ => return .name ((body.part "metadata").part "name")

/-- What a client learns from the answer to an operation. Streams are always refused. -/
def reply (op : Http.Operation) (response : Response) : Except Halt Reply :=
  if op.request.method == .stream then .error (.fault Response.refusedStream)
  else if response.isSuccess then readBody op response
  else .error (.fault response.fault)

end Client
end PodReach
