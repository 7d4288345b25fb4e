import PodReach.Yaml.Node
import PodReach.Yaml.Scalar.Reading

/-!
# Assembling values

From nodes to values. A collection is begun empty when it is first met and filled only after
everything that was met before it, so that it may hold itself; of two defects the one in the
collection that is filled first counts. A mapping takes over entries of others before it is
filled, and then the last of several entries with one key counts.
-/

namespace PodReach.Yaml

/-- What a node stands for: a value by itself, or a collection of other nodes. -/
inductive Holding
  | leaf (value : Yaml)
  | items (nodes : List Nat)
  | pairs (nodes : List (Nat × Nat))
  | keys (keys : List Yaml)
  | entries (entries : List (Yaml × Nat))
  deriving Inhabited

/-- The state of assembling values: the nodes, what they stand for as far as that is known, and
the collections in the order in which they are filled. -/
structure Assembly where
  nodes : Array Node
  holdings : Array (Option Holding)
  queue : Array Nat
  deriving Inhabited

namespace Assembly

/-- A step of assembling values. -/
abbrev Build := StateT Assembly (Except Defect)

/-- A node by its number. -/
def node (index : Nat) : Build Node := do
  return (← get).nodes[index]?.getD ⟨.null, .scalar ""⟩

/-- The entries of a node that is a mapping. -/
def entriesOf (index : Nat) : Build (List (Nat × Nat)) := do
  match (← node index).content with
  | .mapping entries => return entries
  | _ => throw .malformed

/-- Change the nodes. -/
def updateNode (index : Nat) (f : Node → Node) : Build Unit :=
  modify fun a => { a with nodes := a.nodes.modify index f }

/-- Record what a node stands for. -/
def hold (index : Nat) (holding : Holding) : Build Unit :=
  modify fun a => { a with holdings := a.holdings.setIfInBounds index (some holding) }

/-- The text that a node stands for where a scalar is asked for: its own, or that of the default
value of a mapping. -/
def scalarText : Nat → Nat → Build String
  | 0, _ => throw .malformed
  | fuel + 1, index => do
    match (← node index).content with
    | .scalar content => return content
    | .sequence _ => throw .malformed
    | .mapping entries =>
      match ← entries.findM? fun (key, _) => return (← node key).kind == .default with
      | some (_, value) => scalarText fuel value
      | none => throw .malformed

/-- The value of a node that is no collection. A timestamp has to be a scalar itself. -/
def leafOf (index : Nat) : Build Yaml := do
  let ⟨kind, content⟩ ← node index
  match kind with
  | .merge | .default | .unknown => throw .malformed
  | _ =>
    let written ← scalarText ((← get).nodes.size + 1) index
    match kind, content with
    | .timestamp, .mapping _ => throw (.mistake .wrongKind)
    | _, _ => kind.read written

/-- Begin a collection: it is filled later. -/
def begin (index : Nat) (empty : Holding) : Build Unit := do
  hold index empty
  modify fun a => { a with queue := a.queue.push index }

/-- Meet a node, for the first time or again. -/
def visit (index : Nat) : Build Unit := do
  match (← get).holdings[index]? with
  | some none =>
    match (← node index).kind with
    | .sequence => begin index (.items [])
    | .pairs => begin index (.pairs [])
    | .set => begin index (.keys [])
    | .mapping => begin index (.entries [])
    | _ => hold index (.leaf (← leafOf index))
  | _ => pure ()

/-- Meet a node that is a key; a collection cannot be one. -/
def visitKey (index : Nat) : Build Yaml := do
  visit index
  match (← get).holdings[index]? with
  | some (some (.leaf value)) => return value
  | _ => throw .malformed

/-- Take over the entries of the sources of a mapping, which are mappings or sequences of them.
Entries of a source come before the mapping's own, those of the first of several sources last.
Keys of default values become texts. A source leaves the mapping before its entries are taken, so
the number of sources bounds the recursion. -/
def flatten : Nat → Nat → List (Nat × Nat) → Build Unit
  | 0, _, _ => throw .malformed
  | fuel + 1, index, taken => do
    let entries ← entriesOf index
    let kinds ← entries.mapM fun (key, _) => return (← node key).kind
    match kinds.idxOf? .merge with
    | none =>
      for ((key, _), kind) in entries.zip kinds do
        if kind == .default then updateNode key ({ · with kind := .text })
      updateNode index ({ · with content := .mapping (taken ++ entries) })
    | some place =>
      updateNode index ({ · with content := .mapping (entries.eraseIdx place) })
      let source := (entries[place]?.getD (0, 0)).2
      let entriesFrom (source : Nat) : Build (List (Nat × Nat)) := do
        let _ ← entriesOf source
        flatten fuel source []
        entriesOf source
      let more ← match (← node source).content with
        | .mapping _ => entriesFrom source
        | .sequence sources => do
          let groups ← sources.mapM entriesFrom
          pure groups.reverse.flatten
        | .scalar _ => throw .malformed
      flatten fuel index (taken ++ more)

/-- The number of sources that mappings take entries from. -/
def sourceCount (nodes : Array Node) : Nat :=
  nodes.foldl (fun n node =>
    match node.content with
    | .mapping entries => n + entries.length
    | _ => n) 0

/-- The entries of a mapping by key, each with the node of its value. -/
def fillEntries (index : Nat) : Build (List (Yaml × Nat)) := do
  let _ ← entriesOf index
  flatten (sourceCount (← get).nodes + 1) index []
  (← entriesOf index).foldlM (fun known (key, value) => do
    let key ← visitKey key
    visit value
    return setEntry key value known) []

/-- The items of a node that is a sequence. -/
def itemsOf (index : Nat) : Build (List Nat) := do
  match (← node index).content with
  | .sequence items => return items
  | _ => throw .malformed

/-- Fill a collection. -/
def fill (index : Nat) : Build Unit := do
  match (← node index).kind with
  | .sequence =>
    let items ← itemsOf index
    items.forM visit
    hold index (.items items)
  | .pairs =>
    let pairs ← (← itemsOf index).mapM fun item => do
      match ← entriesOf item with
      | [(key, value)] =>
        visit key
        visit value
        return (key, value)
      | _ => throw .malformed
    hold index (.pairs pairs)
  | .set => hold index (.keys ((← fillEntries index).map (·.1)))
  | _ => hold index (.entries (← fillEntries index))

/-- Fill the collections from a place in the queue on. Every node is in the queue at most once. -/
def fillAll : Nat → Nat → Build Unit
  | 0, _ => pure ()
  | fuel + 1, place => do
    match (← get).queue[place]? with
    | none => pure ()
    | some index =>
      fill index
      fillAll fuel (place + 1)

end Assembly

/-- The value of a node that was met on the way from the nodes on a path. -/
def valueOf (holdings : Array (Option Holding)) : (fuel : Nat) → (path : List Nat) → Nat → Yaml
  | 0, _, _ => .null
  | fuel + 1, path, index =>
    let inside (child : Nat) : Yaml := valueOf holdings fuel (index :: path) child
    match holdings[index]?.join with
    | none => .null
    | some (.leaf value) => value
    | some (.keys keys) => .set keys
    | some (.items nodes) =>
      if path.contains index then .loop false else .list (nodes.map inside)
    | some (.pairs nodes) =>
      if path.contains index then .loop false
      else .list (nodes.map fun (key, value) => .pair (inside key) (inside value))
    | some (.entries entries) =>
      if path.contains index then .loop true
      else .map (entries.map fun (key, value) => (key, inside value))

/-- The value of the root of a document. Its entries, and the parts of its items, are shown on
their own, so what they hold is met there for the first time. -/
def rootValue (holdings : Array (Option Holding)) (root : Nat) : Yaml :=
  let fresh (index : Nat) : Yaml := valueOf holdings (holdings.size + 1) [] index
  let opened (top : Bool) (index : Nat) (onItem : Nat → Yaml) : Yaml :=
    match holdings[index]?.join with
    | some (.items nodes) => .list (nodes.map onItem)
    | some (.pairs nodes) => .list (nodes.map fun (key, value) => .pair (fresh key) (fresh value))
    | some (.entries entries) =>
      if top then .map (entries.map fun (key, value) => (key, fresh value)) else fresh index
    | _ => fresh index
  opened true root fun item => opened false item fresh

/-- The value that a graph of nodes stands for; without a document it is null. -/
def ofGraph (graph : Node.Graph) : Except Defect Yaml := do
  match graph.root with
  | none => return .null
  | some root =>
    let build : Assembly.Build Unit := do
      Assembly.visit root
      Assembly.fillAll (graph.nodes.size + 1) 0
    let (_, a) ← build.run ⟨graph.nodes, Array.replicate graph.nodes.size none, #[]⟩
    return rootValue a.holdings root

end PodReach.Yaml
