import PodReach.Forward.Port
import PodReach.World.Sockets

/-!
# Listening on local ports

Every port is bound on every address on which that is possible. A port that is to be any free
port is chosen by the first address that can be bound; the others use the same number. A port
that cannot be bound anywhere ends the attempt, and so does an address that cannot be the name of a
host: that is found out only when a socket is there already, and nothing closes it then.
-/

namespace PodReach.Forward

open Run

/-- A socket that listens for connections to a forwarded port. -/
structure Listener where
  address : String
  port : Port
  socket : Nat
  deriving DecidableEq, Repr, Inhabited

/-- An address with a port number. -/
def endpoint (address : String) (number : Nat) : String := s!"{address}:{number}"

/-- Where a listener listens. -/
def Listener.endpoint (l : Listener) : String := Forward.endpoint l.address l.port.localPort

/-- How a forwarding run ended. -/
inductive Ending
  | stopped
  | failed (failure : Failure)
  | mistaken (mistake : Mistake)
  deriving DecidableEq, Repr, Inhabited

/-- What came of trying to listen for a port on one address. -/
inductive Attempt
  | refused
  | listening (listener : Listener)
  | mistaken (mistake : Mistake)
  deriving DecidableEq, Repr, Inhabited

/-- Try to listen for a port on one address; what the network refuses is only logged. -/
def listenOn (address : String) (port : Port) : Run Attempt := do
  match ← Network.makeSocket address with
  | .error fault => do
    Log.write .warning s!"无法创建 {address} 的套接字: {fault}"
    return .refused
  | .ok socket => do
    match ← Network.listen socket address port.localPort with
    | .error .noHost => return .mistaken .wrongKind
    | .error (.refused fault) => do
      Network.closeSocket socket
      record (.traffic (.listenerClosed none))
      Log.write .warning s!"无法监听 {address}:{port.localPort}: {fault}"
      return .refused
    | .ok number => do
      record (.traffic (.listening (Forward.endpoint address number)))
      Log.write .info s!"Forwarding from {address}:{number} -> {port.remotePort}"
      return .listening ⟨address, { port with localPort := number }, socket⟩

/-- What came of listening for a port: the port with its final number, the listeners, and the
mistake that ended the attempt, if one did. -/
structure Everywhere where
  port : Port
  listeners : List Listener
  mistake : Option Mistake
  deriving DecidableEq, Repr, Inhabited

/-- Listen for a port on all addresses. -/
def listenEverywhere : Port → List String → Run Everywhere
  | port, [] => return ⟨port, [], none⟩
  | port, address :: rest => do
    match ← listenOn address port with
    | .refused => listenEverywhere port rest
    | .mistaken mistake => return ⟨port, [], some mistake⟩
    | .listening listener =>
      let others ← listenEverywhere listener.port rest
      return { others with listeners := listener :: others.listeners }

/-- What came of listening: the ports as they are known now, the listeners, and how the attempt
ended, if it did before its time. -/
structure Listening where
  ports : List Port
  listeners : List Listener
  ending : Option Ending
  deriving DecidableEq, Repr, Inhabited

/-- Listen for all ports on all addresses. -/
def listenAll (addresses : List String) : List Port → Run Listening
  | [] => return ⟨[], [], none⟩
  | port :: rest => do
    let all ← listenEverywhere port addresses
    match all.mistake with
    | some mistake => return ⟨all.port :: rest, all.listeners, some (.mistaken mistake)⟩
    | none =>
      if all.listeners.isEmpty then
        let failure := Failure.cannotListen addresses all.port.localPort
        return ⟨all.port :: rest, [], some (.failed failure)⟩
      else
        let others ← listenAll addresses rest
        return ⟨all.port :: others.ports, all.listeners ++ others.listeners, others.ending⟩

/-- Close a listener; its endpoint is free again. -/
def closeListener (l : Listener) : Run Unit := do
  Network.closeSocket l.socket
  record (.traffic (.listenerClosed (some l.endpoint)))

/-- Close listeners in order. -/
def closeListeners : List Listener → Run Unit
  | [] => pure ()
  | l :: rest => do
    closeListener l
    closeListeners rest

end PodReach.Forward
