import PodReach.Mistake
import PodReach.Yaml.Value

/-!
# The parts of a value

A collection can be gone through part by part, and a text can be looked for in it. The parts of a
mapping are its keys, those of a text its characters, those of bytes numbers; a piece of a text
counts as being in it.
-/

namespace PodReach.Yaml

/-- The parts of a value that is gone through one by one. -/
def parts : Yaml → Except Mistake (List Yaml)
  | .list items | .set items => .ok items
  | .pair key value => .ok [key, value]
  | .map entries => .ok (entries.map (·.1))
  | .text s => .ok (s.toList.map fun c => .text (String.singleton c))
  | .bytes b => .ok (b.map fun byte => .integer byte.toNat)
  | _ => .error .wrongKind

/-- The parts of a value of which nothing is kept if it counts as false. -/
def partsIfAny (value : Yaml) : Except Mistake (List Yaml) :=
  if value.truthy then parts value else .ok []

/-- Whether a text is in a value: as a key, as an element or as a piece of a text. -/
def holds (part : String) : Yaml → Except Mistake Bool
  | .map entries => .ok (lookup? part entries).isSome
  | .list items | .set items => .ok (items.any (same (.text part)))
  | .pair key value => .ok ([key, value].any (same (.text part)))
  | .text s => .ok (Text.contains s part)
  | _ => .error .wrongKind

/-- Whether a value is made up of values that can be asked for by name or by place. -/
def isCollection : Yaml → Bool
  | .map _ | .list _ => true
  | _ => false

end PodReach.Yaml
