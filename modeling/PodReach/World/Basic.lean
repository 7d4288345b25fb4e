import PodReach.Journal
import PodReach.Pod.Basic
import PodReach.World.Markup

/-!
# The world a run meets

Everything outside the program that can answer it, as a value: the cluster, the clock, the
person at the prompts, the local terminal and network, other programs. An operation is a
function on this value that ends in a result or a `Halt`; either way the world it leaves holds
the journal of what was done.
-/

namespace PodReach

/-- Which pods a deployment is about: those with these labels, in the order in which the cluster
reports them. -/
structure LabelSelector where
  matchLabels : Option (List (String × String))
  deriving DecidableEq, Repr, Inhabited

/-- The specification of a deployment, as far as its selector goes. -/
structure DeploymentSpec where
  selector : Option LabelSelector
  deriving DecidableEq, Repr, Inhabited

/-- A deployment as the cluster reports it; every part may be missing. -/
structure Deployment where
  name : String
  ns : String
  spec : Option DeploymentSpec
  deriving DecidableEq, Repr, Inhabited

/-- The labels that the pods of a deployment have to match, if it says so at all. -/
def Deployment.matchLabels (d : Deployment) : Option (List (String × String)) := do
  let spec ← d.spec
  let selector ← spec.selector
  selector.matchLabels

/-- A service account with its image pull secrets. -/
structure ServiceAccount where
  name : String
  ns : String
  secrets : List String
  deriving DecidableEq, Repr, Inhabited

/-- A piece of local input, or its end. -/
inductive Input
  | piece (bytes : List UInt8)
  | ended
  deriving DecidableEq, Repr, Inhabited

/-- What one update of an open stream brings. The update itself can fail, and so can reading the
output after it, sending local input before the next one, and passing on a new size of the
terminal. -/
structure Tick where
  elapsed : Double
  input : Option Input
  resize : Option (Int × Int)
  fault : Option Fault
  readFault : Option Fault
  sendFault : Option Fault
  resizeFault : Option Fault
  out : String
  err : String
  deriving DecidableEq, Repr, Inhabited

/-- How a stream behaves: whether it can be opened, whether the size of the terminal can be sent
at its start, its ticks, and the text of its error channel at its end, unless reading that fails.
It ends when its ticks are used up. Someone who waits for the end may interrupt the run. -/
structure StreamScript where
  refusal : Option Fault
  sizeFault : Option Fault
  ticks : List Tick
  status : String
  statusFault : Option Fault
  interrupted : Bool
  deriving DecidableEq, Repr, Inhabited

/-- A stream that ends at once. -/
def StreamScript.silent : StreamScript := ⟨none, none, [], "", none, false⟩

/-- What a readable end of a relay yields: bytes (none when it was closed), or an error. -/
inductive Received
  | bytes (bytes : List UInt8)
  | broken (detail : String)
  deriving DecidableEq, Repr, Inhabited

/-- The two ends of a relay. -/
inductive End
  | connection
  | remote
  deriving DecidableEq, Repr, Inhabited

/-- One round of a relay: whether the relay is told to stop before it, what is readable at which
end, and why sending to an end fails, if it does. -/
structure Round where
  stopped : Bool
  readable : List (End × Received)
  sendFault : End → Option String
  deriving Inhabited

/-- A connection accepted on a forwarded port: whether its tunnel opens, the error text that
the tunnel reports at the end, and the rounds of the relay. -/
structure Connection where
  tunnel : Except Fault (Option String)
  rounds : List Round
  deriving Inhabited

/-- What one poll of a listener finds. -/
inductive Arrival
  | idle
  | broken
  | connection (connection : Connection)
  deriving Inhabited

/-- An open socket of this program, and the address and port it listens on, if it does. -/
structure Socket where
  number : Nat
  place : Option (String × Nat)
  deriving DecidableEq, Repr, Inhabited

/-- The open sockets of this program. Every attempt to make a socket uses up a number, so that no
number ever means two sockets. -/
@[ext]
structure Sockets where
  /-- The number of attempts so far. -/
  asked : Nat
  opened : List Socket
  numbered : ∀ socket ∈ opened, socket.number < asked
  deriving DecidableEq, Repr

/-- No socket was ever asked for. -/
def Sockets.fresh : Sockets := ⟨0, [], nofun⟩

instance : Inhabited Sockets := ⟨.fresh⟩

/-- The local network. What it refuses may depend on the attempt. -/
structure Network where
  /-- Why an attempt to make a socket for an address fails, if it does. -/
  socketFault : Nat → String → Option String
  /-- Why the socket of an attempt cannot listen on an address and a port, if it cannot; that this
  program already listens there is another reason. -/
  bindFault : Nat → String → Nat → Option String
  /-- The number that stands for any free port when so many were handed out before. -/
  freePort : Nat → Nat
  handedOut : Nat
  /-- Whether a text can be read as the name of a host at all; others are no addresses. -/
  takesHost : String → Bool
  arrivals : List (String × List Arrival)
  sockets : Sockets
  deriving Inhabited

/-- The kinds of calls to the cluster. -/
inductive Service
  | listPods
  | readPod
  | readNamespace
  | createNamespace
  | readBinding
  | createBinding
  | readDeployment
  | readServiceAccount
  | patchServiceAccount
  | openStream
  | openPortForward
  | readLog
  deriving DecidableEq, Repr, Inhabited

/-- A cluster as seen through its API. Listing pods has an answer for every time it is asked;
all other reads look at the current objects. Any request may be answered with a fault instead. -/
structure Cluster where
  /-- Whether no client can be built, because nothing that is configured leads to a cluster. -/
  unconfigured : Bool
  ns : Yaml
  context : String
  authProvider : Yaml
  pods : List Pod
  listAnswers : Nat → Except Fault (List Pod)
  listed : Nat
  namespaces : List Yaml
  /-- The cluster role bindings by name. -/
  bindings : List (String × Json)
  deployments : List Deployment
  accounts : List ServiceAccount
  streams : List StreamScript
  log : List (Except Fault (List UInt8))
  /-- The number of requests so far. -/
  requests : Nat
  /-- The fault that a service answers with when there were so many requests before. -/
  broken : Service → Nat → Option Fault
  deriving Inhabited

/-- What running another program does. -/
inductive ProcessOutcome
  | missing
  | timedOut
  | finished (code : Int) (stdout stderr : String)
  deriving DecidableEq, Repr, Inhabited

/-- What the person at a prompt does. -/
inductive Answer
  | pick (index : Nat)
  | typed (text : String)
  | interrupt
  | endOfInput
  deriving DecidableEq, Repr, Inhabited

/-- The local standard input: whether it has a descriptor, whether that is a terminal, and the
pieces that can be read. -/
structure StandardInput where
  descriptor : Bool
  terminal : Bool
  pieces : List (List UInt8)
  ended : Bool
  deriving DecidableEq, Repr, Inhabited

/-- The attributes of the local terminal: the flags that are set, by name, how many bits a character
has, and how many characters a read waits for and how long. -/
structure TerminalAttributes where
  flags : List String
  characterSize : Nat
  least : Nat
  patience : Nat
  deriving DecidableEq, Repr, Inhabited

namespace TerminalAttributes

/-- The flags of a terminal that does something itself with what is typed and shown. -/
def cooking : List String :=
  ["BRKINT", "ICRNL", "INPCK", "ISTRIP", "IXON", "OPOST", "PARENB", "ECHO", "ICANON", "IEXTEN",
    "ISIG"]

/-- The attributes of a terminal that passes every byte on as it comes. -/
def raw (attributes : TerminalAttributes) : TerminalAttributes where
  flags := attributes.flags.filter fun flag => !cooking.contains flag
  characterSize := 8
  least := 1
  patience := 0

/-- The attributes of a terminal at which someone types lines. -/
def usual : TerminalAttributes :=
  ⟨["BRKINT", "ICRNL", "IXON", "OPOST", "ECHO", "ECHOE", "ICANON", "IEXTEN", "ISIG"], 8, 1, 0⟩

end TerminalAttributes

/-- What lies at a path. -/
inductive Lying
  | directory
  | file (text : String)
  /-- A file that cannot be opened. -/
  | locked
  /-- A file whose bytes are no text. -/
  | garbled
  /-- What takes everything and yields nothing. -/
  | sink
  deriving DecidableEq, Repr, Inhabited

/-- Files and directories by path. -/
abbrev Files := List (String × Lying)

/-- The log files that are open: the directory of each name. -/
abbrev OpenLogs := List (String × String)

/-- The world of a run. -/
structure World where
  now : Instant
  clock : Double
  answers : List Answer
  /-- The first console text that holds this text is followed by an interrupt, once. -/
  interruptOn : Option String
  process : ProcessOutcome
  stdin : StandardInput
  terminalSize : Int × Int
  terminalAttributes : TerminalAttributes
  network : Network
  cluster : Cluster
  files : Files
  home : String
  directory : String
  /-- The place of the settings, if the environment names one. -/
  settingsPath : Option String
  /-- What is reported about a settings file that cannot be used, by its place and what lies
  there. -/
  complaint : String → Option Lying → String
  /-- Which texts the console can render. -/
  markup : Markup
  /-- The directory in which log files are opened. -/
  logDirectory : Yaml
  /-- Why the log file of a name cannot be opened in a directory, if it cannot. -/
  logFault : Yaml → String → Option String
  logs : OpenLogs
  journal : Journal
  deriving Inhabited

/-- A cluster without any object. -/
def Cluster.empty : Cluster where
  unconfigured := false
  ns := .text "default"
  context := "gke_dev"
  authProvider := .null
  pods := []
  listAnswers := fun _ => .ok []
  listed := 0
  namespaces := []
  bindings := []
  deployments := []
  accounts := []
  streams := []
  log := []
  requests := 0
  broken := fun _ _ => none

/-- A network on which every address and every port is free. -/
def Network.quiet : Network where
  socketFault := fun _ _ => none
  bindFault := fun _ _ _ => none
  freePort := fun n => 40000 + n
  handedOut := 0
  takesHost := fun _ => true
  arrivals := []
  sockets := .fresh

/-- The directory of log files unless the settings give one. -/
def World.usualLogDirectory : String := ".devkube/logs"

/-- The instant `2024-01-02T03:04:05Z`, at which a world stands unless told otherwise. -/
def World.usualNow : Instant := ⟨1704164645000000⟩

/-- A world in which nothing is scripted. -/
def World.empty : World where
  now := World.usualNow
  clock := .finite 0
  answers := []
  interruptOn := none
  process := .missing
  stdin := ⟨false, false, [], false⟩
  terminalSize := (80, 24)
  terminalAttributes := .usual
  network := .quiet
  cluster := .empty
  files := []
  home := "<HOME>"
  directory := "<CWD>"
  settingsPath := none
  complaint := fun _ _ => ""
  markup := .lenient
  logDirectory := .text World.usualLogDirectory
  logFault := fun _ _ => none
  logs := []
  journal := #[]

/-- An operation on the world: it ends in a result or a `Halt`, and in a world either way. -/
abbrev Run := ExceptT Halt (StateM World)

end PodReach
