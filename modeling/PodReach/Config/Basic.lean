import PodReach.Fault
import PodReach.World.Path
import PodReach.Yaml.Parts

/-!
# Settings

A configuration is a mapping that has at least the known settings; a file may add others. The
file's value is merged over the usual settings, key by key.
-/

namespace PodReach

/-- The settings, by name. -/
structure Config where
  entries : List (Yaml × Yaml)
  deriving Inhabited

namespace Config

/-- The settings that hold unless a file says otherwise. -/
def usual : Config where
  entries := [
    (.text "namespace", .null),
    (.text "kube_context", .null),
    (.text "kubeconfig", .null),
    (.text "max_wait", .integer 120),
    (.text "default_shell", .text "/bin/bash"),
    (.text "default_log_lines", .integer 100),
    (.text "log_dir", .text "./.devkube/logs"),
    (.text "port_forward_address", .text "localhost")]

/-- The value of a setting. -/
def value (config : Config) (name : String) : Yaml :=
  (Yaml.lookup? name config.entries).getD .null

/-- The settings with one of them changed. -/
def put (config : Config) (name : String) (value : Yaml) : Config :=
  ⟨Yaml.setEntry (.text name) value config.entries⟩

/-- A setting that is a text, unless it is null or empty. -/
def text? (config : Config) (name : String) : Option String :=
  let value := config.value name
  if value.truthy then some value.shown else none

/-- The entry that an element of a list stands for: it has two parts. -/
def pairOf (element : Yaml) : Except Mistake (Yaml × Yaml) := do
  match ← element.parts with
  | [key, value] => if key.hashable then .ok (key, value) else .error .wrongKind
  | _ => .error .badValue

/-- The entries that the value of a settings file stands for. A value that counts as false has
none; one that is not a mapping has to be made up of pairs. -/
def entriesOf (value : Yaml) : Except Mistake (List (Yaml × Yaml)) :=
  if !value.truthy then .ok []
  else match value with
    | .map entries => .ok entries
    | other => do (← other.parts).mapM pairOf

/-- The settings with entries set one after the other. -/
def merge (config : Config) (entries : List (Yaml × Yaml)) : Config :=
  ⟨entries.foldl (fun known (key, value) => Yaml.setEntry key value known) config.entries⟩

/-- The value of a path setting with its tilde replaced. Only a text, or its bytes, can be a path,
and the account that it names has to be one that can be looked up. -/
def expandedPath (home : String) : Yaml → Except Mistake Yaml
  | .text path =>
    if Path.hasNameableAccount path then .ok (.text (Path.expandTilde home path))
    else .error .badValue
  | .bytes path =>
    if Path.hasNameableAccount (Path.ofBytes path) then
      .ok (.bytes (Path.expandTildeBytes home path))
    else .error .badValue
  | _ => .error .wrongKind

/-- The settings with the tilde of a path setting replaced, unless it counts as false. -/
def expandPath (home : String) (name : String) (config : Config) : Except Mistake Config := do
  if (config.value name).truthy then
    return config.put name (← expandedPath home (config.value name))
  else return config

/-- The settings with the tildes of their paths replaced. -/
def expandPaths (home : String) (config : Config) : Except Mistake Config := do
  expandPath home "log_dir" (← expandPath home "kubeconfig" config)

end Config
end PodReach
