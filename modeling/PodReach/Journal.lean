import PodReach.Fault
import PodReach.Yaml.Value

/-!
# The journal of a run

Everything a run does to the outside is an entry of its journal, in the order in which it
happens: calls to the cluster, pauses, output to the console, log lines, and what passes
through sessions and forwarded ports.
-/

namespace PodReach

/-- A call to the cluster or to another program, with its arguments. A namespace is a text unless
the settings hold something else. -/
inductive Call
  | listPods (ns : Yaml) (selector : String)
  | readPod (name : Option String) (ns : Yaml)
  | readNamespace (name : Yaml)
  | createNamespace (name : Yaml)
  | readBinding (name : String)
  | createBinding (body : Json)
  | readDeployment (name : String) (ns : Yaml)
  | readServiceAccount (name : String) (ns : Yaml)
  | patchServiceAccount (name : String) (ns : Yaml) (body : Json)
  | openStream (pod : Option String) (ns : Yaml) (container : Option String)
      (command : Option (List String)) (tty : Bool)
  | openPortForward (pod : Option String) (ns : Yaml) (ports : List Nat)
  | readLog (pod : Option String) (ns : Yaml) (container : Option String) (follow : Bool)
      (tail : Yaml)
  | process (command : List String) (timeout : Yaml)
  deriving Inhabited

/-- How urgent a log line is. -/
inductive Level
  | info
  | warning
  | error
  deriving DecidableEq, Repr, Inhabited

/-- How a column of a table is laid out. -/
structure Column where
  title : String
  style : Option String
  centered : Bool
  width : Option Nat
  minWidth : Option Nat
  deriving DecidableEq, Repr, Inhabited

/-- A table, with the style of its border and whether there are lines between its rows. -/
structure Table where
  title : String
  border : String
  lined : Bool
  columns : List Column
  rows : List (List String)
  deriving DecidableEq, Repr, Inhabited

/-- The texts of a table, all of which may hold markup. -/
def Table.texts (table : Table) : List String :=
  table.title :: table.columns.map Column.title ++ table.rows.flatten

/-- What is handed to the console. What it makes of it, how it wraps a line, how wide a column comes
out and what it puts in the place of a tag, is not told here. -/
inductive Display
  | line (text : String)
  | styled (text : String) (style : Option String)
  | table (table : Table)
  | panel (text : String) (title : Option String)
  | cleared
  | spinner (text : String)
  | spinnerStopped
  | choice (message : String) (choices : List String) (preset : Option String)
  | question (message : String)
  | numberQuestion (message : String) (preset low high : Int)
  deriving DecidableEq, Repr, Inhabited

/-- What happens at the ends of a session or of a forwarded port. -/
inductive Traffic
  | stdout (text : String)
  | stderr (text : String)
  | stdin (text : String)
  | resized (columns rows : Int)
  | rawEntered
  | rawLeft
  | resizeWatched
  | resizeUnwatched
  | streamClosed
  | listening (address : String)
  /-- A listening socket was closed; there is no address if it was never bound. -/
  | listenerClosed (address : Option String)
  | toConnection (bytes : List UInt8)
  | toRemote (bytes : List UInt8)
  | connectionClosed
  | remoteClosed
  | logReleased
  deriving DecidableEq, Repr, Inhabited

/-- One entry of the journal. -/
inductive Entry
  /-- The client was built, for a namespace, a context and a kubeconfig. -/
  | connected (ns context kubeconfig : Yaml)
  | call (call : Call)
  | slept (seconds : Double)
  | display (display : Display)
  | log (level : Level) (text : String)
  | traffic (traffic : Traffic)
  deriving Inhabited

/-- The entries of a run, oldest first. -/
abbrev Journal := Array Entry

end PodReach
