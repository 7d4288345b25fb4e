import PodReach.Fault
import PodReach.Json.Reader
import PodReach.Text.Integer
import PodReach.Instant

/-!
# How a remote command ended

When a session is over, its error channel holds a JSON status. A success is exit code zero, a
failure with the reason `NonZeroExitCode` names the code in one of its causes, and any other
status is the failure of the session. An empty channel says nothing, as after an attach.
-/

namespace PodReach.Session

/-- The value of a field of something that has to be an object; a missing field is null. -/
def fieldOf (name : String) : Json → Except Halt Json
  | .object fields => .ok ((fields.lookup name).getD .null)
  | _ => .error (.mistake .noSuchPart)

/-- Whether a value is this text. -/
def isText (s : String) : Json → Bool
  | .text t => t == s
  | _ => false

/-- The whole number that the message of a cause stands for. -/
def codeOf : Json → Except Halt Int
  | .integer n => .ok n
  | .bool b => .ok (if b then 1 else 0)
  | .text s =>
    match Text.readInteger? s with
    | some n => .ok n
    | none => .error (.mistake .badValue)
  | .number x =>
    match x.truncate with
    | some n => .ok n
    | none => .error (.mistake (if x == .nan then .badValue else .overflow))
  | _ => .error (.mistake .wrongKind)

/-- The exit code that the first cause with the reason `ExitCode` names; without such a cause
the code is one. -/
def codeOfCauses : List Json → Except Halt Int
  | [] => .ok 1
  | cause :: rest => do
    if isText "ExitCode" (← fieldOf "reason" cause) then
      match cause.field? "message" with
      | some message => codeOf message
      | none => .ok 1
    else codeOfCauses rest

/-- The causes listed in the details of a status. Anything that counts as false is empty. -/
def causesOf (details : Json) : Except Halt (List Json) := do
  if !details.truthy then .ok []
  else
    let causes ← fieldOf "causes" details
    if !causes.truthy then .ok []
    else match causes with
      | .list items => .ok items
      -- the parts of a text or an object are texts, which have no reason to give
      | .text _ | .object _ => .error (.mistake .noSuchPart)
      | _ => .error (.mistake .wrongKind)

/-- The exit code in a status, or the failure it reports. -/
def exitCodeOf (raw : String) (status : Json) : Except Halt Int := do
  if isText "Success" (← fieldOf "status" status) then .ok 0
  else if isText "NonZeroExitCode" (← fieldOf "reason" status) then
    codeOfCauses (← causesOf (← fieldOf "details" status))
  else
    let message ← fieldOf "message" status
    .error (.failed (.remoteFailure (if message.truthy then message.shown else raw)))

/-- The exit code that the text of the error channel reports; none if it is empty. -/
def exitCode (raw : String) : Except Halt (Option Int) :=
  if raw.isEmpty then .ok none
  else match Json.read? raw with
    | none => .error (.failed (.statusUnreadable raw))
    | some status => (exitCodeOf raw status).map some

end PodReach.Session
