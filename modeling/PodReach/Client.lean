import PodReach.Http.Request
import PodReach.Kubeconfig.Credentials
import PodReach.Kubeconfig.Provider

/-!
# The client of a cluster

A client is built from the kubeconfig, or, where that is unusable, from what a program inside a
cluster finds around it. It knows its namespace, its context, who issued its credentials, and
the server that its requests go to.
-/

namespace PodReach

/-- What a program inside a cluster finds around it. -/
structure Surroundings where
  host : String
  port : String
  token : String
  deriving DecidableEq, Repr, Inhabited

/-- An answer of the server. A log comes in pieces instead of a body. -/
structure Response where
  status : Int
  reason : Option String
  body : Json
  pieces : List (List UInt8)
  deriving Inhabited

namespace Response

/-- Whether an answer reports success. -/
def isSuccess (r : Response) : Bool := 200 ≤ r.status && r.status ≤ 299

/-- What an answer reports that is no success. -/
def fault (r : Response) : Fault := .api r.status r.reason

/-- What opening a stream reports when the server refuses it. -/
def refusedStream : Fault := .api 0 (some "handshake refused")

end Response

/-- A client of a cluster. -/
structure Client where
  ns : Yaml
  context : Yaml
  authProvider : Yaml
  /-- The address of the server. -/
  server : String
  deriving Inhabited

namespace Client

open Run

/-- The namespace of a client: the given one, else that of the context, else the usual one. -/
def chooseNs (given : Option String) (contextual : Yaml) : Yaml :=
  match Text.nonempty given with
  | some ns => .text ns
  | none => if contextual.truthy then contextual else .text "default"

/-- A client for a context of the kubeconfig. The current context has to be usable even if
another one is chosen. -/
def ofKubeconfig (ns context kubeconfig : Option String) : Run Client := do
  let k ← Kubeconfig.load kubeconfig
  let chosen ← MonadExcept.ofExcept (k.choose context)
  match chosen.user with
  | some user => Kubeconfig.authenticate user chosen.cluster
  | none => pure ()
  let address ← MonadExcept.ofExcept (Kubeconfig.connection (← get) chosen)
  let current ← MonadExcept.ofExcept (k.choose none)
  let active := if (Text.nonempty context).isSome then chosen else current
  let part (name : String) : Run Yaml := MonadExcept.ofExcept (active.context.field? name)
  let contextual ← part "namespace"
  let provider ← Kubeconfig.provider kubeconfig (← part "user")
  return ⟨chooseNs ns contextual, active.name, provider, address.getD Http.usualServer⟩

/-- A client of the cluster that the program runs in. -/
def ofSurroundings (ns : Option String) (around : Option Surroundings) : Except Halt Client :=
  match around with
  | none => .error .noClusterConfig
  | some s =>
    if s.host.isEmpty || s.port.isEmpty || s.token.isEmpty then .error .noClusterConfig
    else .ok ⟨chooseNs ns .null, .text "", .null, Http.serverInside s.host s.port⟩

/-- The client for the given namespace, context and kubeconfig. -/
def build (ns context kubeconfig : Option String) (around : Option Surroundings) : Run Client := do
  match ← attempt (ofKubeconfig ns context kubeconfig) with
  | .ok client => return client
  | .error .noClusterConfig => MonadExcept.ofExcept (ofSurroundings ns around)
  | .error halt => throw halt

end Client
end PodReach
