import PodReach.Yaml.Assembly

/-!
# Reading YAML

The value that a text with at most one document denotes, in three steps: the tokens of the text,
the nodes that the tokens spell out, and the values that the nodes stand for.
-/

namespace PodReach.Yaml

/-- The value that a text denotes; a text without a document denotes null. -/
def read (text : String) : Except Defect Yaml := do
  ofGraph (← Node.ofTokens (tokensOf text))

end PodReach.Yaml
