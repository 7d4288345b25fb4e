import PodReach.Kubeconfig.Part
import PodReach.World.Effects
import PodReach.World.Path
import PodReach.Yaml.Reader

/-!
# Kubeconfig files

Where clusters, users and contexts are listed. Several files can be given, with colons between
them; read together, an entry counts only if no earlier entry of its list has the same name, and
the last file that names a current context decides.
-/

namespace PodReach

/-- What kubeconfig files say together. -/
structure Kubeconfig where
  clusters : List Kubeconfig.Part
  contexts : List Kubeconfig.Part
  users : List Kubeconfig.Part
  /-- The name of the current context; null if there is none. -/
  current : Yaml
  deriving Inhabited

namespace Kubeconfig

open Run

/-- Where the kubeconfig lies unless a place is given. -/
def usualPath : String := "~/.kube/config"

/-- The given places, or the usual one. -/
def placesOr (given : Option String) : String :=
  (Text.nonempty given).getD usualPath

/-- The first of the given places. -/
def firstPath (home : String) (given : Option String) : String :=
  Path.expandTilde home ((Text.split ':' (placesOr given)).headD "")

/-- Every one of the given places. -/
def paths (home : String) (places : String) : List String :=
  ((Text.split ':' places).filter (!·.isEmpty)).map (Path.expandTilde home)

/-- The first entry of a list that has a name. Every entry needs to have one. -/
def named? (name : Yaml) (entries : List Part) : Except Halt (Option Part) := do
  let names ← entries.mapM (·.under "name")
  return ((names.zip entries).find? fun (n, _) => Part.sameName n.value name).map (·.2)

/-- The name of an entry that is about to be added to others; it has to be a mapping with a name. -/
def newName : Yaml → Except Halt Yaml
  | .map entries =>
    match Yaml.lookup? "name" entries with
    | some name => .ok name
    | none => .error (.mistake .noSuchKey)
  | _ => .error (.mistake .wrongKind)

/-- Whether an entry has the name of one in a list. Entries are compared up to the first that has
its name; the first entry of a list is compared with nothing. -/
def isListed (entry : Yaml) : List Part → Except Halt Bool
  | [] => .ok false
  | known :: rest => do
    let name ← known.under "name"
    if Part.sameName name.value (← newName entry) then return true else isListed entry rest

/-- A list of entries with those of a file whose names are new. -/
def mergeEntries (file : String) (known : List Part) (more : List Yaml) : Except Halt (List Part) :=
  more.foldlM (fun known entry => do
    return if ← isListed entry known then known
      else known ++ [⟨file, file ++ "/" ++ entry.shown, entry⟩]) known

/-- No file read yet. -/
def nothing : Kubeconfig := ⟨[], [], [], .null⟩

/-- The files so far with one more, whose value is a mapping with these entries. -/
def addFile (k : Kubeconfig) (file : String) (entries : List (Yaml × Yaml)) :
    Except Halt Kubeconfig := do
  let merged (name : String) (known : List Part) : Except Halt (List Part) := do
    let more ← orHalt ((Yaml.lookup? name entries).getD .null).partsIfAny
    mergeEntries file known more
  let clusters ← merged "clusters" k.clusters
  let contexts ← merged "contexts" k.contexts
  let users ← merged "users" k.users
  return ⟨clusters, contexts, users, (Yaml.lookup? "current-context" entries).getD k.current⟩

/-- The entries of a file; nothing if the path leads nowhere. An empty file makes the kubeconfig
unusable. One that is no mapping is a mistake: the first file is changed, later ones are asked. -/
def readFile (first : Bool) (path : String) : Run (Option (List (Yaml × Yaml))) := do
  match (← get).fileAt? path with
  | none => return none
  | some lying =>
    let content ← MonadExcept.ofExcept lying.read
    match Yaml.read content with
    | .error .malformed => throw (.mistake .badValue)
    | .error (.mistake mistake) => throw (.mistake mistake)
    | .ok .null => throw .noClusterConfig
    | .ok (.map entries) => return some entries
    | .ok _ => throw (.mistake (if first then .wrongKind else .noSuchPart))

/-- The files at several paths, added one after the other; nothing if none of them exists. -/
def readFiles : Option Kubeconfig → List String → Run (Option Kubeconfig)
  | k, [] => pure k
  | k, path :: rest => do
    match ← readFile k.isNone path with
    | none => readFiles k rest
    | some entries =>
      let k ← MonadExcept.ofExcept (addFile (k.getD nothing) path entries)
      readFiles (some k) rest

/-- What the files at the given places say together. -/
def load (given : Option String) : Run Kubeconfig := do
  match ← readFiles none (paths (← get).home (given.getD usualPath)) with
  | some k => pure k
  | none => throw .noClusterConfig

/-- A context that is in use: its name, its own fields, those of its user, if one is listed, and
those of its cluster. -/
structure Chosen where
  name : Yaml
  context : Part
  user : Option Part
  cluster : Part
  deriving Inhabited

/-- The user of a context, if one is listed; a listed user needs to have fields. -/
def userOf (k : Kubeconfig) (context : Part) : Except Halt (Option Part) := do
  if (← context.field? "user").truthy && !k.users.isEmpty then
    match ← named? (← context.field "user").value k.users with
    | some entry => return some (← entry.under "user")
    | none => return none
  else return none

/-- The context of a name, or the current one. It and its cluster have to be listed. -/
def choose (k : Kubeconfig) (context : Option String) : Except Halt Chosen := do
  let name ← match context with
    | some name => pure (Yaml.text name)
    | none => match k.current with
      | .null => throw .noClusterConfig
      | name => pure name
  match ← named? name k.contexts with
  | none => throw .noClusterConfig
  | some entry =>
    let context ← entry.under "context"
    let user ← userOf k context
    match ← named? (← context.field "cluster").value k.clusters with
    | none => throw .noClusterConfig
    | some cluster =>
      return ⟨(← entry.under "name").value, context, user, ← cluster.under "cluster"⟩

end Kubeconfig
end PodReach
