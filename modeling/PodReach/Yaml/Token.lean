import PodReach.Yaml.Cursor

/-!
# The tokens of a YAML text
-/

namespace PodReach.Yaml

/-- A token. Blocks are opened and closed by tokens of their own, which stand for a change of
indentation; the end of a text is the end of its tokens. -/
inductive Token
  /-- A directive that gives the version of the format. -/
  | version (major : Nat)
  /-- A directive that gives a tag handle a meaning. -/
  | handle (name meaning : String)
  /-- A directive without effect. -/
  | directive
  | documentStart
  | documentEnd
  | blockSequenceStart
  | blockMappingStart
  | blockEnd
  | flowSequenceStart
  | flowSequenceEnd
  | flowMappingStart
  | flowMappingEnd
  | blockEntry
  | flowEntry
  | key
  | value
  | alias (name : String)
  | anchor (name : String)
  /-- A tag: a handle, unless the tag is written out, and the rest of it. -/
  | tag (handle : Option String) (suffix : String)
  | scalar (text : String) (plain : Bool)
  deriving DecidableEq, Repr, Inhabited

end PodReach.Yaml
