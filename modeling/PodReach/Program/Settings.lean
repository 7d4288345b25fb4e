import PodReach.CommandLine.Task
import PodReach.Config.Files
import PodReach.LogFile

/-!
# The settings of one run

What the options of the program leave open comes from the configuration. The client is built
from these settings when it is first needed; its namespace is the chosen one, if there is one.
-/

namespace PodReach.Program

open Run CommandLine

/-- The settings that a run works with. -/
structure Settings where
  config : Config
  ns : Yaml
  context : Yaml
  kubeconfig : Yaml
  deriving Inhabited

namespace Settings

/-- An option that is not empty, else the configured value. -/
def optionOr (option : Option String) (configured : Yaml) : Yaml :=
  match Text.nonempty option with
  | some s => .text s
  | none => configured

/-- The settings that options and configuration make. -/
def make (globals : Globals) (config : Config) : Settings where
  config := config
  ns := optionOr globals.ns (config.value "namespace")
  context := optionOr globals.context (config.value "kube_context")
  kubeconfig := optionOr globals.kubeconfig (config.value "kubeconfig")

/-- Build the client, if something leads to a cluster. -/
def connect (s : Settings) : Run Unit := do
  record (.connected s.ns s.context s.kubeconfig)
  if (← get).cluster.unconfigured then throw .noClusterConfig
  Cluster.update fun c => { c with ns := s.ns.orElse c.ns }

/-- The selector that a selection makes under these settings. -/
def select (s : Settings) (selection : Selection) : Run Selector :=
  selection.selector s.ns (s.config.value "max_wait")

/-- The directory of the logs, if the settings change it. -/
def logDirectory? (s : Settings) (home : String) : Option String :=
  LogFile.chosenDirectory? home (s.config.text? "log_dir")

/-- Let logs be opened in the directory that the settings give, if they give one. -/
def setLogDirectory (s : Settings) : Run Unit := do
  let directory := s.config.value "log_dir"
  if directory.truthy then
    let home := (← get).home
    match Config.expandedPath home directory with
    | .ok expanded => modify fun w => { w with logDirectory := expanded }
    | .error mistake => throw (.mistake mistake)

end Settings
end PodReach.Program
