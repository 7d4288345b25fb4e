import PodReach.Yaml.Kind
import PodReach.Yaml.Token.Stream

/-!
# Nodes

The graph that the tokens of a text spell out. Nodes are numbered in the order in which they
start, and a collection names its parts by number: an alias stands for the node of its name, which
may be a collection that is not finished yet. Scalars have the kind that their form or their tag
gives them.
-/

namespace PodReach.Yaml

/-- What a node is made of. -/
inductive Content
  | scalar (text : String)
  | sequence (items : List Nat)
  | mapping (entries : List (Nat × Nat))
  deriving DecidableEq, Repr, Inhabited

/-- A node of a YAML text. -/
structure Node where
  kind : Kind
  content : Content
  deriving DecidableEq, Repr, Inhabited

namespace Node

/-- The state of reading nodes: the tokens that are left, the nodes so far, the numbers of the
nodes that have a name, and the meanings of the tag handles. -/
structure Reader where
  source : TokenStream
  nodes : Array Node
  anchors : List (String × Nat)
  handles : List (String × String)
  deriving Inhabited

/-- A step of reading nodes. -/
abbrev Read := StateT Reader (Except Defect)

/-- The next token, left in place; none at the end of the text. A defect is met where the tokens
end at it. -/
def peek : Read (Option Token) := do
  let source := (← get).source
  match source.tokens, source.defect with
  | token :: _, _ => return some token
  | [], none => return none
  | [], some defect => throw defect

/-- Take the next token. -/
def advance : Read Unit :=
  modify fun r => { r with source.tokens := r.source.tokens.tail }

/-- Take a token that has to come next. -/
def expect (token : Token) : Read Unit := do
  if (← peek) == some token then advance else throw .malformed

/-- Add a node; its number is the result. -/
def add (node : Node) : Read Nat :=
  modifyGet fun r => (r.nodes.size, { r with nodes := r.nodes.push node })

/-- Add what an absent node stands for. -/
def addEmpty : Read Nat :=
  add ⟨.null, .scalar ""⟩

/-- The name of a node, if it gets one. -/
def takeAnchor : Read (Option String) := do
  match ← peek with
  | some (.anchor name) => advance; return some name
  | _ => return none

/-- The tag of a node, if it has one: its handle, unless the tag is written out, and the rest. -/
def takeTag : Read (Option (Option String × String)) := do
  match ← peek with
  | some (.tag handle suffix) => advance; return some (handle, suffix)
  | _ => return none

/-- A tag with its handle replaced. -/
def resolve (tag : Option (Option String × String)) : Read (Option String) := do
  match tag with
  | none => return none
  | some (none, suffix) => return some suffix
  | some (some handle, suffix) =>
    match (← get).handles.lookup handle with
    | some meaning => return some (meaning ++ suffix)
    | none => throw .malformed

/-- The name and the tag in front of a node, in either order. -/
def takeProperties : Read (Option String × Option String) := do
  match ← takeAnchor with
  | some name =>
    let tag ← takeTag
    return (some name, ← resolve tag)
  | none =>
    let tag ← takeTag
    let name ← if tag.isSome then takeAnchor else pure none
    return (name, ← resolve tag)

/-- The kind that a tag gives; without a tag, or with the bare mark of one, it is another. -/
def kindOf (tag : Option String) (otherwise : Kind) : Kind :=
  match tag.filter (· != "!") with
  | none => otherwise
  | some tag => Kind.ofTag tag

/-- A scalar with a tag. One in quotes is a text unless its tag says otherwise. -/
def ofScalar (tag : Option String) (text : String) (plain : Bool) : Node :=
  ⟨kindOf tag (if plain || tag.isSome then .ofPlain text else .text), .scalar text⟩

/-- Add a node with its name, which no other node may have. -/
def addNamed (name : Option String) (node : Node) : Read Nat := do
  match name with
  | none => add node
  | some name =>
    if ((← get).anchors.lookup name).isSome then throw .malformed
    else
      let index ← add node
      modify fun r => { r with anchors := (name, index) :: r.anchors }
      return index

/-- Add a collection and then its parts, among which it may itself be. -/
def addCollection (name : Option String) (kind : Kind) (parts : Read Content) : Read Nat := do
  let index ← addNamed name ⟨kind, .scalar ""⟩
  let content ← parts
  modify fun r => { r with nodes := r.nodes.setIfInBounds index ⟨kind, content⟩ }
  return index

mutual

/-- The node that comes next. Block collections may stand only where `block` says so, and a
sequence without indentation of its own only where `indentless` does. -/
def read (block indentless : Bool) : Nat → Read Nat
  | 0 => throw .malformed
  | fuel + 1 => do
    match ← peek with
    | some (.alias name) =>
      advance
      match (← get).anchors.lookup name with
      | some index => return index
      | none => throw .malformed
    | _ =>
      let (name, tag) ← takeProperties
      let sequence (items : Read (List Nat)) : Read Nat :=
        addCollection name (kindOf tag .sequence) (.sequence <$> items)
      let mapping (entries : Read (List (Nat × Nat))) : Read Nat :=
        addCollection name (kindOf tag .mapping) (.mapping <$> entries)
      let absent : Read Nat := do
        if name.isSome || tag.isSome then addNamed name (ofScalar tag "" true)
        else throw .malformed
      match ← peek with
      | some (.scalar content plain) => do
        advance
        addNamed name (ofScalar tag content plain)
      | some .flowSequenceStart => sequence do
          advance
          readFlowItems true fuel
      | some .flowMappingStart => mapping do
          advance
          readFlowEntries true fuel
      | some .blockSequenceStart =>
        if block then
          sequence do
            advance
            readItems fuel
        else absent
      | some .blockMappingStart =>
        if block then
          mapping do
            advance
            readEntries fuel
        else absent
      | some .blockEntry => if indentless then sequence (readIndentless fuel) else absent
      | _ => absent

/-- The node that comes next, or an absent one before some tokens. -/
def readOr (ends : List Token) (block : Bool) : Nat → Read Nat
  | 0 => throw .malformed
  | fuel + 1 => do
    match ← peek with
    | some token => if ends.contains token then addEmpty else read block block fuel
    | none => throw .malformed

/-- The items of a block sequence up to the end of the block. -/
def readItems : Nat → Read (List Nat)
  | 0 => throw .malformed
  | fuel + 1 => do
    match ← peek with
    | some .blockEntry => do
      advance
      let next ← peek
      let item ← if next == some .blockEntry || next == some .blockEnd then addEmpty
        else read true false fuel
      return item :: (← readItems fuel)
    | some .blockEnd => do
      advance
      return []
    | _ => throw .malformed

/-- The items of a block sequence that is not indented. -/
def readIndentless : Nat → Read (List Nat)
  | 0 => throw .malformed
  | fuel + 1 => do
    match ← peek with
    | some .blockEntry => do
      advance
      let next ← peek
      let item ← if [some .blockEntry, some .key, some .value, some .blockEnd].contains next
        then addEmpty else read true false fuel
      return item :: (← readIndentless fuel)
    | _ => return []

/-- The entries of a block mapping up to the end of the block. -/
def readEntries : Nat → Read (List (Nat × Nat))
  | 0 => throw .malformed
  | fuel + 1 => do
    match ← peek with
    | some .key => do
      advance
      let key ← readOr [.key, .value, .blockEnd] true fuel
      let value ← if (← peek) == some .value then do
          advance
          readOr [.key, .value, .blockEnd] true fuel
        else addEmpty
      return (key, value) :: (← readEntries fuel)
    | some .blockEnd => do
      advance
      return []
    | _ => throw .malformed

/-- A key after its mark and its value, in brackets that end with a token. -/
def readFlowEntry (closing : Token) : Nat → Read (Nat × Nat)
  | 0 => throw .malformed
  | fuel + 1 => do
    let key ← readOr [.value, .flowEntry, closing] false fuel
    if (← peek) == some .value then
      advance
      return (key, ← readOr [.flowEntry, closing] false fuel)
    else return (key, ← addEmpty)

/-- The items of a sequence in brackets; a key with its value is an item of its own. -/
def readFlowItems (first : Bool) : Nat → Read (List Nat)
  | 0 => throw .malformed
  | fuel + 1 => do
    if !first && (← peek) != some .flowSequenceEnd then expect .flowEntry
    match ← peek with
    | some .flowSequenceEnd => do
      advance
      return []
    | some .key => do
      advance
      let entry ← addCollection none .mapping do
        return .mapping [← readFlowEntry .flowSequenceEnd fuel]
      return entry :: (← readFlowItems false fuel)
    | _ => do
      let item ← read false false fuel
      return item :: (← readFlowItems false fuel)

/-- The entries of a mapping in brackets; what has no mark of a key is a key without a value. -/
def readFlowEntries (first : Bool) : Nat → Read (List (Nat × Nat))
  | 0 => throw .malformed
  | fuel + 1 => do
    if !first && (← peek) != some .flowMappingEnd then expect .flowEntry
    match ← peek with
    | some .flowMappingEnd => do
      advance
      return []
    | some .key => do
      advance
      let entry ← readFlowEntry .flowMappingEnd fuel
      return entry :: (← readFlowEntries false fuel)
    | _ => do
      let key ← read false false fuel
      let value ← addEmpty
      return (key, value) :: (← readFlowEntries false fuel)

end

/-- The handles that need no directive. -/
def usualHandles : List (String × String) := [("!", "!"), ("!!", Kind.tagStart)]

/-- Take the directives in front of a document: at most one version, which has to be of the
first generation, and at most one meaning for a handle. -/
def takeDirectives (version : Bool) : Nat → Read Unit
  | 0 => throw .malformed
  | fuel + 1 => do
    match ← peek with
    | some (.version major) =>
      if version || major != 1 then throw .malformed
      advance
      takeDirectives true fuel
    | some (.handle name meaning) =>
      let r ← get
      if (r.handles.lookup name).isSome then throw .malformed
      modify fun r => { r with handles := (name, meaning) :: r.handles }
      advance
      takeDirectives version fuel
    | some .directive =>
      advance
      takeDirectives version fuel
    | _ => modify fun r => { r with handles := r.handles ++ usualHandles }

/-- Whether a token belongs to a directive. -/
def isDirective : Token → Bool
  | .version _ | .handle _ _ | .directive => true
  | _ => false

/-- Whether a token stands between documents. -/
def isBoundary (token : Token) : Bool :=
  isDirective token || token == .documentStart || token == .documentEnd

/-- Take the marks of the end of a document. -/
def takeEnds : Nat → Read Unit
  | 0 => throw .malformed
  | fuel + 1 => do
    if (← peek) == some .documentEnd then
      advance
      takeEnds fuel

/-- The start of a document that is marked: its directives and three dashes. -/
def takeStart (fuel : Nat) : Read Unit := do
  modify fun r => { r with handles := [] }
  takeDirectives false fuel
  expect .documentStart

/-- The number of the node of the only document; nothing if there is none. -/
def readDocument (fuel : Nat) : Read (Option Nat) := do
  match ← peek with
  | none => return none
  | some first =>
    let root ←
      if isDirective first || first == .documentStart then do
        takeStart fuel
        match ← peek with
        | some token => if isBoundary token then addEmpty else read true false fuel
        | none => addEmpty
      else do
        modify fun r => { r with handles := usualHandles }
        read true false fuel
    takeEnds fuel
    if (← peek).isSome then
      takeStart fuel
      throw .malformed
    return some root

/-- A graph of nodes with its root; without a root there is no document. -/
structure Graph where
  nodes : Array Node
  root : Option Nat
  deriving Inhabited

/-- The nodes that tokens spell out. -/
def ofTokens (source : TokenStream) : Except Defect Graph := do
  let (root, r) ← (readDocument (3 * source.tokens.length + 3)).run ⟨source, #[], [], []⟩
  return ⟨r.nodes, root⟩

end Node
end PodReach.Yaml
