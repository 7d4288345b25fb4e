import PodReach.World.Api

/-!
# Relaying a forwarded connection

In every round the readable ends are read in turn, and what one end sends goes to the other. A
relay ends when it is told to stop, an end is closed or an operation fails.
-/

namespace PodReach.Forward

open Run

/-- The end that receives what an end sends. -/
def End.peer : End → End
  | .connection => .remote
  | .remote => .connection

/-- Send bytes to an end. -/
def sendTo (target : End) (bytes : List UInt8) : Run Unit :=
  match target with
  | .connection => record (.traffic (.toConnection bytes))
  | .remote => record (.traffic (.toRemote bytes))

/-- How a round or a relay ends. -/
inductive RelayEnd
  | stopped
  | closed
  | broken (detail : String)
  deriving DecidableEq, Repr, Inhabited

/-- Pass on what the readable ends hold, in their order, until one is closed or something
fails. -/
def relayRound (sendFault : End → Option String) : List (End × Received) → Run (Option RelayEnd)
  | [] => return none
  | (source, received) :: rest =>
    match received with
    | .broken detail => return some (.broken detail)
    | .bytes bytes =>
      if bytes.isEmpty then return some .closed
      else match sendFault (End.peer source) with
        | some detail => return some (.broken detail)
        | none => do
          sendTo (End.peer source) bytes
          relayRound sendFault rest

/-- Relay round after round. After the last round the connection is closed. -/
def relayRounds : List Round → Run RelayEnd
  | [] => return .closed
  | round :: rest => do
    if round.stopped then return .stopped
    match ← relayRound round.sendFault round.readable with
    | some ended => return ended
    | none => relayRounds rest

end PodReach.Forward
