import PodReach.Text.Utf8
import PodReach.World.Api

/-!
# Reading a container's log by lines

The log arrives in pieces of bytes. Its lines are those of the decoded text, however the pieces
are cut; an unfinished last line counts as a line, an empty one after the last line break does
not. When the connection breaks, the complete lines read so far remain.
-/

namespace PodReach.Session

open Run

/-- The complete lines of a text and the unfinished one after them. -/
def cutLines (text : List Char) : List String × List Char :=
  let pieces := Text.splitOnChar '\n' text
  (pieces.dropLast.map String.ofList, pieces.getLastD [])

/-- The lines of a log and the fault that ended it early, if one did; given the unfinished
character and the unfinished line so far. -/
def linesFrom (partialChar : Option Text.PartialChar) (pending : List Char) :
    List (Except Fault (List UInt8)) → List String × Option Fault
  | [] =>
    let last := pending ++ Text.decodeEnd partialChar
    (if last.isEmpty then [] else [String.ofList last], none)
  | .error fault :: _ => ([], some fault)
  | .ok bytes :: rest =>
    let (partialChar, text) := Text.decodePiece partialChar bytes
    let (complete, pending) := cutLines (pending ++ text)
    let (more, fault) := linesFrom partialChar pending rest
    (complete ++ more, fault)

/-- The halt that a fault of the log connection stands for. -/
def logHalt : Fault → Halt
  | .http detail => .failed (.logBroken detail)
  | other => .fault other

/-- Read the log of a container: its lines, and how reading ended. -/
def logLines (pod : Pod) (container : Option String) (follow : Bool) (tail : Yaml) :
    Run (List String × Option Halt) := do
  let metadata ← need pod.metadata
  let ns := (Yaml.ofText? metadata.ns).orElse (← get).cluster.ns
  match ← attempt (Cluster.readLog metadata.name ns container follow tail) with
  | .ok pieces =>
    let (lines, fault) := linesFrom none [] pieces
    return (lines, fault.map logHalt)
  | .error (.fault fault) => return ([], some (logHalt fault))
  | .error halt => return ([], some halt)

end PodReach.Session
