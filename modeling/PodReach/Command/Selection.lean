import PodReach.Selector
import PodReach.Setup

/-!
# Selecting a target by options

The options that commands on containers have in common, and the selector that they make. A
deployment takes the place of a label selector.
-/

namespace PodReach

/-- What the options of a command say about its target; the wait is null if it is not given. -/
structure Selection where
  podName : Option String
  containerName : Option String
  labels : String
  images : List String
  deployment : Option String
  maxWait : Yaml
  deriving Inhabited

namespace Selection

/-- No option is given. -/
def none : Selection := ⟨Option.none, Option.none, "", [], Option.none, .null⟩

/-- The wait of a selection, or the usual one. -/
def waitOr (s : Selection) (usual : Yaml) : Yaml :=
  match s.maxWait with
  | .null => usual
  | wait => wait

/-- The selector for a namespace that a selection makes. -/
def selector (s : Selection) (ns : Yaml) (usualWait : Yaml) : Run Selector := do
  let labels ← match Text.nonempty s.deployment with
    | some deployment => Setup.deploymentSelector deployment ns
    | Option.none => pure s.labels
  return ⟨ns, labels, s.images, s.podName, s.containerName, s.waitOr usualWait⟩

end Selection
end PodReach
