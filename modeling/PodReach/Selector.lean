import PodReach.Pod.Status
import PodReach.Yaml.Value

/-!
# What to look for

A selector names the pods and the container that an operation is about: a pod by name, or pods
by labels and images, and how long to wait for them.
-/

namespace PodReach

/-- The conditions of one search. The longest wait is whatever the settings hold; only a number can
be counted down. The namespace is a text unless the settings hold something else, and null if it is
the client's. -/
structure Selector where
  ns : Yaml
  labels : String
  images : List String
  podName : Option String
  containerName : Option String
  maxWait : Yaml
  deriving Inhabited

namespace Selector

/-- The longest wait unless one is given, in seconds. -/
def usualWait : Yaml := .integer 120

/-- The selector without any condition. -/
def any : Selector := ⟨.null, "", [], none, none, usualWait⟩

/-- Labels and images as shown in messages. -/
def describeTerms (labels : String) (images : List String) : String :=
  let parts := (if labels.isEmpty then [] else [labels])
    ++ (if images.isEmpty then [] else ["image=" ++ ",".intercalate images])
  let joined := " ".intercalate parts
  if joined.isEmpty then "<all>" else joined

/-- The selector as shown in messages. -/
def describe (s : Selector) : String :=
  match Text.nonempty s.podName with
  | some name => s!"pod={name}"
  | none => describeTerms s.labels s.images

/-- Whether no condition chooses a pod. -/
def isEmpty (s : Selector) : Bool :=
  (Text.nonempty s.podName).isNone && s.labels.isEmpty && s.images.isEmpty

/-- The namespace of the search: the selector's own, else the client's. -/
def nsOr (s : Selector) (fallback : Yaml) : Yaml :=
  s.ns.orElse fallback

end Selector

/-- An amount of time that a search may take. A whole number too large for a binary64 number can be
compared with zero, but nothing can be taken off it; what is no number cannot even be compared. -/
inductive Budget
  | seconds (amount : Double)
  | vast (negative : Bool)
  | none
  deriving DecidableEq, Repr, Inhabited

namespace Budget

/-- The amount of time that a setting stands for. -/
def ofSetting : Yaml → Budget
  | .integer n =>
    match Double.ofInt n with
    | .infinite negative => vast negative
    | amount => seconds amount
  | .number x => seconds x
  | .bool b => seconds (Double.ofInt (if b then 1 else 0))
  | _ => none

end Budget
end PodReach
