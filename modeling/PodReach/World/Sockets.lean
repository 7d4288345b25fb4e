import PodReach.World.Effects

/-!
# Sockets

Sockets are made, listen on a place and are closed. A place is an address with a port number; only
one socket can listen on it. Closing a socket that is closed already does nothing.
-/

namespace PodReach

namespace Sockets

/-- The sockets after an attempt that failed. -/
def skipped (s : Sockets) : Sockets where
  asked := s.asked + 1
  opened := s.opened
  numbered := fun socket h => Nat.lt_succ_of_lt (s.numbered socket h)

/-- The sockets with a new one. -/
def added (s : Sockets) : Sockets where
  asked := s.asked + 1
  opened := s.opened ++ [⟨s.asked, none⟩]
  numbered := by
    intro socket h
    rcases List.mem_append.mp h with h | h
    · exact Nat.lt_succ_of_lt (s.numbered socket h)
    · rw [List.mem_singleton.mp h]
      exact Nat.lt_succ_self _

/-- The sockets when one of them listens on a place. -/
def placed (s : Sockets) (number : Nat) (place : String × Nat) : Sockets where
  asked := s.asked
  opened := s.opened.map fun socket =>
    if socket.number = number then { socket with place := some place } else socket
  numbered := by
    intro socket h
    obtain ⟨old, hold, rfl⟩ := List.mem_map.mp h
    split <;> exact s.numbered old hold

/-- The sockets when one of them is closed. -/
def without (s : Sockets) (number : Nat) : Sockets where
  asked := s.asked
  opened := s.opened.filter fun socket => socket.number != number
  numbered := fun socket h => s.numbered socket (List.mem_filter.mp h).1

/-- Whether a socket listens on a place. -/
def listensOn (s : Sockets) (place : String × Nat) : Bool :=
  s.opened.any fun socket => socket.place == some place

end Sockets

namespace Network

open Run

/-- Put the sockets into another state. -/
def setSockets (sockets : Sockets) : Run Unit :=
  modify fun w => { w with network := { w.network with sockets := sockets } }

/-- Make a socket for an address: its number, or why there is none. -/
def makeSocket (address : String) : Run (Except String Nat) := do
  let network := (← get).network
  match network.socketFault network.sockets.asked address with
  | some fault => do
    setSockets network.sockets.skipped
    return .error fault
  | none => do
    setSockets network.sockets.added
    return .ok network.sockets.asked

/-- Take a socket that comes with a connection: its number. -/
def takeSocket : Run Nat := do
  let sockets := (← get).network.sockets
  setSockets sockets.added
  return sockets.asked

/-- Close a socket. -/
def closeSocket (number : Nat) : Run Unit := do
  setSockets ((← get).network.sockets.without number)

/-- Why a socket cannot listen on an address and a port, if it cannot. -/
def refusal (network : Network) (socket : Nat) (address : String) (number : Nat) :
    Option String :=
  match network.bindFault socket address number with
  | some fault => some fault
  | none =>
    if network.sockets.listensOn (address, number) then some "Address already in use" else none

/-- The port number that a request stands for: zero is any free port. -/
def portFor (network : Network) (requested : Nat) : Nat :=
  if requested = 0 then network.freePort network.handedOut else requested

/-- The network after a port number was asked for; a free port is used up. -/
def portTaken (network : Network) (requested : Nat) : Network :=
  { network with handedOut := network.handedOut + if requested = 0 then 1 else 0 }

/-- Why a socket does not listen. -/
inductive Unbound
  /-- The network refuses. -/
  | refused (detail : String)
  /-- What was taken for an address cannot even be asked for. -/
  | noHost
  deriving DecidableEq, Repr, Inhabited

/-- Let a socket listen on an address and a port: the number of the port, or why it does not. A
free port is used up even if the socket cannot listen there. -/
def listen (socket : Nat) (address : String) (requested : Nat) : Run (Except Unbound Nat) := do
  let network := (← get).network
  if !network.takesHost address then return .error .noHost
  let number := network.portFor requested
  modify fun w => { w with network := w.network.portTaken requested }
  match network.refusal socket address number with
  | some fault => return .error (.refused fault)
  | none => do
    setSockets (network.sockets.placed socket (address, number))
    return .ok number

/-- Replace what arrives at an endpoint from now on. -/
def setArrivals (endpoint : String) (arrivals : List Arrival) (network : Network) : Network :=
  { network with arrivals := network.arrivals.map fun entry =>
      if entry.1 == endpoint then (endpoint, arrivals) else entry }

/-- The next arrival at an endpoint, if there is one. -/
def nextArrival (endpoint : String) : Run (Option Arrival) := do
  match (← get).network.arrivals.lookup endpoint with
  | some (arrival :: rest) => do
    modify fun w => { w with network := setArrivals endpoint rest w.network }
    return some arrival
  | _ => return none

end Network

end PodReach
