import PodReach.Fault
import PodReach.Text.Integer

/-!
# Ports to forward

A port is described by two numbers with a colon between them, or by one number for both ends.
The number before the colon may be missing; it is zero then, which stands for any free port.
-/

namespace PodReach.Forward

/-- A local port and the port of the pod it leads to. Local port zero is any free port. -/
structure Port where
  localPort : Nat
  remotePort : Nat
  deriving DecidableEq, Repr, Inhabited

/-- A port number inside a description, which is what a failure names. -/
def readNumber (text : List Char) (written : String) : Except Failure Nat :=
  match Text.readInteger? (String.ofList text) with
  | none => .error (.invalidPort written)
  | some n =>
    if 0 ≤ n ∧ n ≤ 65535 then .ok n.toNat else .error (.portOutOfRange written)

/-- The port that a description stands for; blanks around it do not matter. -/
def Port.read (described : String) : Except Failure Port := do
  let written := Text.strip described
  let port ← match Text.cutAtFirst ':' written.toList with
    | some (before, after) => do
      let localPort ← if before.isEmpty then .ok 0 else readNumber before written
      let remotePort ← readNumber after written
      pure (Port.mk localPort remotePort)
    | none => do
      let number ← readNumber written.toList written
      pure (Port.mk number number)
  if port.remotePort = 0 then .error (.remotePortZero written) else .ok port

/-- The description of a port with both numbers. -/
def Port.write (p : Port) : String := s!"{p.localPort}:{p.remotePort}"

/-- The ports that a list of descriptions stands for, or the failure of the first bad one. -/
def readPorts (described : List String) : Except Failure (List Port) :=
  described.mapM Port.read

/-- The addresses that one requested address stands for: the name of this machine stands for its
loopback addresses of both families. -/
def loopbacks (address : String) : List String :=
  if address == "localhost" then ["127.0.0.1", "::1"] else [address]

/-- A list without repetitions: every element stays where it occurs first. -/
def firstOccurrences (seen : List String) : List String → List String
  | [] => []
  | x :: rest =>
    if seen.contains x then firstOccurrences seen rest
    else x :: firstOccurrences (seen ++ [x]) rest

/-- The addresses to listen on. Without any, it is this machine alone. -/
def resolveAddresses (addresses : List String) : List String :=
  let requested := if addresses.isEmpty then ["localhost"] else addresses
  firstOccurrences [] (requested.flatMap loopbacks)

end PodReach.Forward
