import PodReach.Session.ExitStatus
import PodReach.Text.Utf8
import PodReach.World.Api

/-!
# Relaying a session

While the stream is open, every update brings output for the local terminal, which is written
at once, and then at most one read of local input is passed on as text. When the local input
has ended, a session without a terminal goes on receiving until the other side has been silent
for longer than the idle timeout, and then closes the stream.

A connection that breaks under the relay is a failure of the session. New sizes of the terminal are
passed on by the one who waits for the relay; a connection that breaks under that ends the waiting
as it is, and the relay with it.
-/

namespace PodReach.Session

open Run

/-- The most bytes that one read of local input returns. -/
def readSize : Nat := 1024

/-- How long the other side may be silent after the end of the local input: a second. -/
def idleTimeout : Double := 1

/-- Where a relay stands: whether it still reads local input, the unfinished character of what
it has read, and the moment from which silence is counted. -/
structure Relaying where
  reading : Bool
  partialChar : Option Text.PartialChar
  silentSince : Option Double
  deriving DecidableEq, Repr, Inhabited

/-- Tell the other side how large the local terminal is, unless sending fails. -/
def sendTerminalSize (sendFault : Option Fault) : Run Unit := do
  unlessBroken sendFault
  let (columns, rows) := (← get).terminalSize
  record (.traffic (.resized columns rows))

/-- Send local input to the other side, unless sending fails. -/
def sendInput (sendFault : Option Fault) (text : List Char) : Run Unit := do
  unlessBroken sendFault
  record (.traffic (.stdin (String.ofList text)))

/-- Queue local input; nothing comes after its end. -/
def queueInput (input : Input) (stdin : StandardInput) : StandardInput :=
  if stdin.ended then stdin
  else match input with
    | .piece bytes => { stdin with pieces := stdin.pieces ++ [bytes] }
    | .ended => { stdin with ended := true }

/-- What an update does apart from output: time passes and input arrives. A broken connection shows
before anything arrives. -/
def applyTick (tick : Tick) : Run Unit := do
  Clock.advance tick.elapsed
  unlessBroken tick.fault
  match tick.input with
  | some input => modify fun w => { w with stdin := queueInput input w.stdin }
  | none => pure ()

/-- What a new size of the terminal leads to: it is passed on if someone watches it. -/
def resize (watching : Bool) (tick : Tick) : Run Unit := do
  match tick.resize with
  | some size =>
    modify fun w => { w with terminalSize := size }
    if watching then sendTerminalSize tick.resizeFault
  | none => pure ()

/-- Write the output of an update to the local terminal; whether there was any. -/
def writeOutput (tick : Tick) : Run Bool := do
  unlessBroken tick.readFault
  if !tick.out.isEmpty then record (.traffic (.stdout tick.out))
  if !tick.err.isEmpty then record (.traffic (.stderr tick.err))
  return !tick.out.isEmpty || !tick.err.isEmpty

/-- Read local input if there is some: at most one piece of at most `readSize` bytes. The empty
read is the end of the input. -/
def readInput : Run (Option (List UInt8)) := do
  let stdin := (← get).stdin
  match stdin.pieces with
  | piece :: rest =>
    let left := piece.drop readSize
    let pieces := if left.isEmpty then rest else left :: rest
    modify fun w => { w with stdin := { w.stdin with pieces := pieces } }
    return some (piece.take readSize)
  | [] => return if stdin.ended then some [] else none

/-- Pass local input on. -/
def forwardInput (closeOnEnd : Bool) (sendFault : Option Fault) (state : Relaying) :
    Run Relaying := do
  match ← readInput with
  | none => return state
  | some [] =>
    let tail := Text.decodeEnd state.partialChar
    if !tail.isEmpty then sendInput sendFault tail
    let since ← if closeOnEnd then some <$> Clock.read else pure none
    return { state with reading := false, silentSince := since }
  | some bytes =>
    let (partialChar, text) := Text.decodePiece state.partialChar bytes
    sendInput sendFault text
    return { state with partialChar := partialChar }

/-- What follows an update: where the relay stands now, or nothing when it closes the stream. -/
def afterUpdate (closeOnEnd received : Bool) (sendFault : Option Fault) (state : Relaying) :
    Run (Option Relaying) := do
  match state.silentSince with
  | some since =>
    let now ← Clock.read
    if received then return some { state with silentSince := some now }
    else if idleTimeout.lt (now.sub since) then
      record (.traffic .streamClosed)
      return none
    else return some state
  | none =>
    if state.reading then some <$> forwardInput closeOnEnd sendFault state
    else return some state

/-- A fault of the connection as a failure of the session. -/
def asConnectionLost : Halt → Halt
  | .fault (.websocket text) => .failed (.connectionLost text)
  | .fault (.os text) => .failed (.connectionLost text)
  | other => other

/-- Do something as part of a relay, for which a broken connection is a failure of the session. -/
def inRelay {α : Type} (action : Run α) : Run α :=
  tryCatch action fun halt => throw (asConnectionLost halt)

/-- Write the output of an update, and what follows. -/
def serveTick (closeOnEnd : Bool) (state : Relaying) (tick : Tick) : Run (Option Relaying) := do
  let received ← writeOutput tick
  afterUpdate closeOnEnd received tick.sendFault state

/-- An update, and a new size of the terminal that comes with it. -/
def update (watching : Bool) (tick : Tick) : Run Unit := do
  inRelay (applyTick tick)
  resize watching tick

/-- One iteration of a relay: where it stands then, or nothing when it has closed the stream. -/
def relayOnce (watching closeOnEnd : Bool) (state : Relaying) (tick : Tick) :
    Run (Option Relaying) := do
  update watching tick
  inRelay (serveTick closeOnEnd state tick)

/-- Relay until the stream is used up or closed. -/
def relayTicks (watching closeOnEnd : Bool) : Relaying → List Tick → Run Unit
  | _, [] => pure ()
  | state, tick :: rest => do
    match ← relayOnce watching closeOnEnd state tick with
    | some state => relayTicks watching closeOnEnd state rest
    | none => pure ()

/-- Relay a whole session and read how the remote command ended. -/
def relay (watching closeOnEnd : Bool) (script : StreamScript) : Run (Option Int) := do
  let start : Relaying := ⟨(← get).stdin.descriptor, none, none⟩
  relayTicks watching closeOnEnd start script.ticks
  unlessBroken script.statusFault
  MonadExcept.ofExcept (exitCode script.status)

end PodReach.Session
