import PodReach.Forward.Listener
import PodReach.Forward.Relay
import PodReach.LogFile

/-!
# A forwarding run

The ports are bound and the run waits until it is stopped or the pod is found to be gone. Meanwhile
every listener accepts connections and every connection is served, all of them side by side. What
happens in which order is not up to the program: a run follows a list of events, each of which is
one step of a listener, of a connection or of the wait.

A tunnel that cannot be opened ends only its connection. The pod is then read, and only the answer
that it does not exist ends the run. Whatever ends the run, all listeners are closed.
-/

namespace PodReach.Forward

open Run

/-- What a forwarding run is about. -/
structure Job where
  podName : Option String
  ns : Yaml
  ports : List Port
  addresses : List String
  deriving Inhabited

/-- The name of the log of forwarding runs. -/
def logName : String := "portforwarding"

/-- The job of forwarding ports of a pod on some addresses, with the log of forwarding runs open. -/
def Job.make (pod : Pod) (ports addresses : List String) : Run Job := do
  let metadata ← need pod.metadata
  let ns := (Yaml.ofText? metadata.ns).orElse (← get).cluster.ns
  match readPorts ports with
  | .ok ports => do
    Log.openFile logName
    return ⟨metadata.name, ns, ports, resolveAddresses addresses⟩
  | .error failure => fail failure

/-- How far the serving of a connection is. -/
inductive Phase
  /-- The tunnel is to be opened. -/
  | opening
  /-- The tunnel could not be opened; the pod is to be read. -/
  | checking
  /-- The tunnel is open behind this socket; when it is closed it reports this text. -/
  | relaying (remote : Nat) (report : Option String)
  /-- It is served; if there was a tunnel, this was its socket. -/
  | served (remote : Option Nat)
  /-- The tunnel could not be opened for a reason that nothing is done about. -/
  | abandoned
  deriving DecidableEq, Repr, Inhabited

/-- A connection that was accepted, with its socket. -/
structure Handler where
  port : Port
  connection : Connection
  socket : Nat
  phase : Phase
  deriving Inhabited

/-- The state of a forwarding run. -/
structure Forwarder where
  ports : List Port
  listeners : List Listener
  ready : Bool
  /-- The sockets of the listeners that no longer accept anything. -/
  deaf : List Nat
  /-- The connections in the order in which they were accepted. -/
  handlers : List Handler
  /-- The sockets of the open tunnels. -/
  tunnels : List Nat
  /-- Whether the pod was found to be gone. -/
  gone : Bool
  ending : Option Ending
  deriving Inhabited

/-- A run that has done nothing yet but listen. -/
def Forwarder.ofListening (listening : Listening) : Forwarder where
  ports := listening.ports
  listeners := listening.listeners
  ready := listening.ending.isNone
  deaf := []
  handlers := []
  tunnels := []
  gone := false
  ending := none

/-- One step of a run. Listeners and connections are counted from zero. -/
inductive Event
  /-- A listener looks for a connection. -/
  | poll (listener : Nat)
  /-- The serving of a connection goes on. -/
  | progress (handler : Nat)
  /-- The wait looks whether the run was stopped and whether the pod is gone. -/
  | look (stopped : Bool)
  deriving DecidableEq, Repr, Inhabited

/-! ## Connections -/

/-- Take what arrives at a listener. -/
def accept (f : Forwarder) (l : Listener) : Run Forwarder := do
  match ← Network.nextArrival l.endpoint with
  | none | some .idle => return f
  | some .broken => return { f with deaf := f.deaf ++ [l.socket] }
  | some (.connection connection) => do
    let socket ← Network.takeSocket
    Log.write .info s!"Handling connection for {l.port.localPort}"
    return { f with handlers := f.handlers ++ [⟨l.port, connection, socket, .opening⟩] }

/-- Open the tunnel of a connection: the text that it will report. -/
def openTunnel (job : Job) (h : Handler) : Run (Option String) := do
  Cluster.request .openPortForward (.openPortForward job.podName job.ns [h.port.remotePort])
  match h.connection.tunnel with
  | .ok report => return report
  | .error fault => throw (.fault fault)

/-- Whether the pod is gone, after a tunnel to it could not be opened. -/
def podIsGone (job : Job) : Run Bool := do
  match ← attempt (Cluster.readPod job.podName job.ns) with
  | .ok _ => return false
  | .error (.fault (.api status reason)) =>
    if status = 404 then return true
    else
      let name := Text.orNone job.podName
      let detail := (Fault.api status reason).detail
      Log.write .error s!"读取 Pod {name} 失败: {detail}"
      return false
  | .error _ => return false

/-- Close the socket of a connection. -/
def closeConnection (h : Handler) : Run Unit := do
  Network.closeSocket h.socket
  record (.traffic .connectionClosed)

/-- Close the socket of a tunnel. -/
def closeRemote (remote : Nat) : Run Unit := do
  Network.closeSocket remote
  record (.traffic .remoteClosed)

/-- Write down how a relay ended, if it failed. -/
def logRelayEnd (h : Handler) : RelayEnd → Run Unit
  | .stopped | .closed => pure ()
  | .broken detail =>
    Log.write .error s!"转发 {h.port.localPort} -> {h.port.remotePort} 时出错: {detail}"

/-- Write down what a closed tunnel reports, if it reports anything. -/
def logReport (h : Handler) (report : Option String) : Run Unit :=
  match Text.nonempty report with
  | some text => Log.write .error s!"端口 {h.port.remotePort} 转发错误: {text}"
  | none => pure ()

/-- Relay round after round, unless the run is over. -/
def relayUnless (stopped : Bool) (rounds : List Round) : Run RelayEnd :=
  if stopped then return .stopped else relayRounds rounds

/-- Relay a connection through its tunnel and close both ends. -/
def relay (h : Handler) (remote : Nat) (report : Option String) (stopped : Bool) : Run Unit := do
  let ended ← relayUnless stopped h.connection.rounds
  logRelayEnd h ended
  closeConnection h
  closeRemote remote
  logReport h report

/-- A connection in another phase. -/
def Forwarder.setPhase (f : Forwarder) (i : Nat) (h : Handler) (phase : Phase) : Forwarder :=
  { f with handlers := f.handlers.set i { h with phase := phase } }

/-- Open the tunnel of a connection, or close the connection. -/
def connect (job : Job) (f : Forwarder) (i : Nat) (h : Handler) : Run Forwarder := do
  match ← attempt (openTunnel job h) with
  | .ok report => do
    let remote ← Network.takeSocket
    return { f.setPhase i h (.relaying remote report) with tunnels := f.tunnels ++ [remote] }
  | .error (.fault (.http _)) => return f.setPhase i h .abandoned
  | .error (.fault fault) => do
    let name := Text.orNone job.podName
    Log.write .error s!"打开到 {name}:{h.port.remotePort} 的隧道失败: {fault.detail}"
    closeConnection h
    return f.setPhase i h .checking
  | .error _ => return f.setPhase i h .abandoned

/-- Go on with serving a connection. -/
def advance (job : Job) (f : Forwarder) (i : Nat) (h : Handler) : Run Forwarder :=
  match h.phase with
  | .opening => connect job f i h
  | .checking => do
    let gone ← podIsGone job
    return { f.setPhase i h (.served none) with gone := f.gone || gone }
  | .relaying remote report => do
    relay h remote report f.ending.isSome
    return { f.setPhase i h (.served (some remote)) with
      tunnels := f.tunnels.filter (· != remote) }
  | .served _ | .abandoned => return f

/-! ## The end of a run -/

/-- Close sockets of tunnels in order. -/
def closeRemotes : List Nat → Run Unit
  | [] => pure ()
  | remote :: rest => do
    closeRemote remote
    closeRemotes rest

/-- Close all listeners and all tunnels that are open. -/
def release (job : Job) (f : Forwarder) : Run Unit := do
  closeListeners f.listeners
  closeRemotes f.tunnels
  let name := Text.orNone job.podName
  Log.write .info s!"端口转发已停止: {name}"

/-- End a run. -/
def finish (job : Job) (ending : Ending) (f : Forwarder) : Run Forwarder := do
  release job f
  return { f with tunnels := [], ending := some ending }

/-! ## Runs -/

/-- Do one step of a run. When the run is over nothing more is accepted, but the connections are
served on. -/
def step (job : Job) (f : Forwarder) : Event → Run Forwarder
  | .poll i =>
    match f.listeners[i]? with
    | none => return f
    | some l => if f.ending.isSome || f.deaf.contains l.socket then return f else accept f l
  | .progress i =>
    match f.handlers[i]? with
    | none => return f
    | some h => advance job f i h
  | .look stopped =>
    if f.ending.isSome then return f
    else if stopped then finish job .stopped f
    else if f.gone then finish job (.failed (.podGone (Text.orNone job.podName))) f
    else return f

/-- Follow events. -/
def follow (job : Job) (f : Forwarder) : List Event → Run Forwarder
  | [] => return f
  | event :: rest => do
    let next ← step job f event
    follow job next rest

/-- Bind the ports. A port that cannot be bound anywhere ends the run at once, and so does an
address that is none. -/
def start (job : Job) : Run Forwarder := do
  let listening ← listenAll job.addresses job.ports
  let f := Forwarder.ofListening listening
  match listening.ending with
  | some ending => finish job ending f
  | none => return f

/-- The order in which everything happens, which may depend on what arrives at the listeners. -/
abbrev Schedule := Network → List Listener → List Event

/-- Forward in the order of a schedule. -/
def forward (job : Job) (schedule : Schedule) : Run Forwarder := do
  let f ← start job
  let network := (← get).network
  follow job f (schedule network f.listeners)

/-! ## One after the other -/

namespace Schedule

/-- Accept what arrives at a listener and serve every connection to its end before the next one,
when so many connections were accepted before; also how many connections there are then. -/
def ofArrivals (listener : Nat) : Nat → List Arrival → List Event × Nat
  | handlers, [] => ([], handlers)
  | handlers, .idle :: rest =>
    let (events, total) := ofArrivals listener handlers rest
    (.poll listener :: events, total)
  | handlers, .broken :: _ => ([.poll listener], handlers)
  | handlers, .connection _ :: rest =>
    let (events, total) := ofArrivals listener (handlers + 1) rest
    (.poll listener :: .progress handlers :: .progress handlers :: events, total)

/-- Do so for listeners one by one, counted from a number on. -/
def ofListeners (network : Network) : Nat → Nat → List Listener → List Event
  | _, _, [] => []
  | i, handlers, l :: rest =>
    let (events, total) := ofArrivals i handlers ((network.arrivals.lookup l.endpoint).getD [])
    events ++ ofListeners network (i + 1) total rest

/-- Serve one listener after the other, and each connection before the next is accepted. -/
def serial : Schedule := fun network listeners => ofListeners network 0 0 listeners

/-- Serve everything, then look so often for a lost pod before the run is stopped. -/
def serialUntil (looks : Nat) : Schedule := fun network listeners =>
  serial network listeners ++ List.replicate looks (.look false) ++ [.look true]

end Schedule

end PodReach.Forward
