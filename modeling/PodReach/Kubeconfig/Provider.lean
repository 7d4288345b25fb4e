import PodReach.Kubeconfig.Basic

/-!
# The provider of a user's credentials

A user entry says who issues its credentials: a provider by name, or the plugin of Google's
clusters. Only the first of several files is looked at, and an entry that names no provider does
not end the search among entries of the same name.
-/

namespace PodReach.Kubeconfig

open Run

/-- A value, or an empty mapping in place of one that counts as false. -/
def orEmpty (value : Yaml) : Yaml :=
  value.orElse (.map [])

/-- The plugin of Google's clusters. -/
def googlePlugin : String := "gke-gcloud-auth-plugin"

/-- What is under a name of a value, null if there is nothing; only a mapping can be asked. -/
def fieldOf (name : String) : Yaml → Except Mistake Yaml
  | .map entries => .ok ((Yaml.lookup? name entries).getD .null)
  | _ => .error .noSuchPart

/-- Whether a command mentions Google's plugin. -/
def mentionsPlugin (command : Yaml) : Except Mistake Bool :=
  if command.truthy then command.holds googlePlugin else .ok false

/-- The provider that the fields of a user name; null if they name none. -/
def providerOf (user : Yaml) : Except Mistake Yaml := do
  let user := orEmpty user
  let provider ← fieldOf "name" (orEmpty (← fieldOf "auth-provider" user))
  if provider.truthy then return provider
  else
    let command ← fieldOf "command" (orEmpty (← fieldOf "exec" user))
    return if ← mentionsPlugin command then .text "gcp" else .null

/-- The provider of the first user of a name whose entry names one. -/
def providerIn (name : Yaml) : List Yaml → Except Mistake Yaml
  | [] => .ok .null
  | entry :: rest => do
    if Yaml.same (← fieldOf "name" entry) name then
      let provider ← providerOf (← fieldOf "user" entry)
      if provider.truthy then return provider else providerIn name rest
    else providerIn name rest

/-- The provider of a user; null if the file cannot be read or knows none. -/
def provider (given : Option String) (user : Yaml) : Run Yaml := do
  let w ← get
  if !user.truthy then return .null
  else match (w.fileAt? (firstPath w.home given)).map Lying.read with
    | none | some (.error (.fault _)) => return .null
    | some (.error halt) => throw halt
    | some (.ok content) =>
      match Yaml.read content with
      | .error .malformed => return .null
      | .error (.mistake mistake) => throw (.mistake mistake)
      | .ok file =>
        let found : Except Mistake Yaml := do
          providerIn user (← (← fieldOf "users" (orEmpty file)).partsIfAny)
        match found with
        | .ok provider => return provider
        | .error mistake => throw (.mistake mistake)

end PodReach.Kubeconfig
