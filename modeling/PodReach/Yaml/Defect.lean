import PodReach.Mistake

/-!
# Defects of YAML texts
-/

namespace PodReach

/-- Why a text denotes no YAML value. -/
inductive Yaml.Defect
  /-- It breaks the rules of the format. -/
  | malformed
  /-- A scalar cannot be taken as what its form or its tag says. -/
  | mistake (mistake : Mistake)
  deriving DecidableEq, Repr, Inhabited

end PodReach
