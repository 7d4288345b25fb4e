import PodReach.Kubeconfig.Attachment
import PodReach.Kubeconfig.Basic
import PodReach.Kubeconfig.Plugin
import PodReach.Kubeconfig.Token

/-!
# The credentials of a context

The credentials of a user are looked for in a fixed order: a token of a provider, a token, a
plugin, a name with a password. The search ends with the first that is there. A server that is
talked to in secret also needs certificates, and what is given for them has to be usable.
-/

namespace PodReach.Kubeconfig

open Run

/-- Whether a user's entry has a token of its own. -/
def hasToken (w : World) (user : Part) : Except Halt Bool := do
  if user.value.isCollection then
    (← Attachment.of w user.file user "token" "tokenFile").isToken w
  else throw (.mistake .noSuchPart)

/-- Check the name and the password of a user, if both are there: texts that can be sent. -/
def checkPassword (user : Part) : Except Halt Unit := do
  if (← user.has "username") && (← user.has "password") then
    let text (name : String) : Except Halt (List Char) := do
      match (← user.field name).value with
      | .text s => return s.toList
      | _ => throw (.mistake .wrongKind)
    let name ← text "username"
    let password ← text "password"
    if !(name ++ password).all (·.toNat < 256) then throw (.mistake .badValue)

/-- Look for the credentials of a user in a cluster. A plugin is tried, which is logged. -/
def authenticate (user cluster : Part) : Run Unit := do
  let w ← get
  if user.value.truthy then
    if !(← MonadExcept.ofExcept (Token.ofProvider w.now user)) then
      if !(← MonadExcept.ofExcept (hasToken w user)) then
        if ← MonadExcept.ofExcept (user.has "exec") then
          Log.write .error (Plugin.logLine w user cluster)
        MonadExcept.ofExcept (checkPassword user)

/-- Check the certificates of a cluster and the certificate and key of a user. -/
def checkCertificates (w : World) (chosen : Chosen) : Except Halt Unit := do
  let file := chosen.cluster.file
  let check (owner : Part) (name : String) : Except Halt Unit := do
    (← Attachment.named w file owner name).check w
  check chosen.cluster "certificate-authority"
  match chosen.user with
  | some user =>
    check user "client-certificate"
    check user "client-key"
  | none => return ()

/-- The address of the server of a cluster, if it has one. -/
def serverAddress? (cluster : Part) : Except Halt (Option String) := do
  if ← cluster.has "server" then
    match (← cluster.field "server").value with
    | .text address => return some address
    | .bytes _ => throw (.mistake .wrongKind)
    | _ => throw (.mistake .noSuchPart)
  else return none

/-- Slashes at the end of an address do not count. -/
def withoutSlashes (address : String) : String :=
  String.ofList (address.toList.reverse.dropWhile (· == '/')).reverse

/-- The address of the server of a context, if it has one; its certificates are checked if it is
talked to in secret. -/
def connection (w : World) (chosen : Chosen) : Except Halt (Option String) := do
  let address := (← serverAddress? chosen.cluster).map withoutSlashes
  if address.any (·.startsWith "https") then checkCertificates w chosen
  ["insecure-skip-tls-verify", "tls-server-name"].forM fun name => do
    if ← chosen.cluster.has name then
      let _ ← chosen.cluster.field name
  return address

end PodReach.Kubeconfig
