import PodReach.Fault
import PodReach.Json.Value
import PodReach.Pod.Status
import PodReach.Text.Integer

/-!
# Reading pods

A pod as the cluster writes it down. What is left out or null is unknown, and a value that stands
where a text is expected counts as the text that it is shown as. Only a time that cannot be read
refuses the whole pod; the times of a pod are looked at in the order of their places, also those
that nothing else is known about.
-/

namespace PodReach

namespace Pod

/-- A value as a count of something; null and texts that are no numbers count nothing. -/
def readCount? : Json → Option Int
  | .integer n => some n
  | .number x => x.truncate
  | .bool b => some (if b then 1 else 0)
  | .text s => Text.readInteger? s
  | _ => none

/-- A value as a time, if there is one. -/
def readTime : Json → Except Halt (Option Instant)
  | .null => .ok none
  | .text s =>
    match Instant.readTimestamp? s with
    | some t => .ok (some t)
    | none => .error (.fault (.api 0 (some s!"Failed to parse \x60{s}\x60 as datetime object")))
  | _ => .error (.mistake .wrongKind)

/-- Check the times under some names. -/
def checkTimes (j : Json) (names : List String) : Except Halt Unit :=
  names.forM fun name => do
    let _ ← readTime (j.part name)

/-- The state of a container. -/
def readState (j : Json) : Except Halt (Option ContainerState) := do
  checkTimes (j.part "running") ["startedAt"]
  checkTimes (j.part "terminated") ["finishedAt", "startedAt"]
  let present (name : String) : Option Json :=
    match j.part name with
    | .null => none
    | found => some found
  match j with
  | .object _ => return some {
      running := (present "running").isSome
      waiting := (present "waiting").map fun w => ⟨(w.part "reason").shown?⟩
      terminated := (present "terminated").map fun t =>
        ⟨(t.part "reason").shown?, readCount? (t.part "signal"), readCount? (t.part "exitCode")⟩ }
  | _ => return none

/-- What is known about a container. -/
def readContainerStatus (j : Json) : Except Halt ContainerStatus :=
  return ⟨(j.part "ready").truthy, (readCount? (j.part "restartCount")).getD 0,
    ← readState (j.part "state")⟩

/-- A declared container. -/
def readContainer (j : Json) : Container :=
  ⟨(j.part "name").shown?, (j.part "image").shown?, (j.part "tty").truthy, (j.part "stdin").truthy⟩

/-- The identity of a pod. -/
def readMetadata (j : Json) : Except Halt (Option Metadata) := do
  let created ← readTime (j.part "creationTimestamp")
  let deleted ← readTime (j.part "deletionTimestamp")
  match j with
  | .null => return none
  | _ => return some {
      name := (j.part "name").shown?
      ns := (j.part "namespace").shown?
      labels := (j.part "labels").fields.map fun (key, value) => (key, value.shown)
      created := created
      deleting := deleted.isSome }

/-- The declared part of a pod. -/
def readSpec (j : Json) : Option PodSpec :=
  match j with
  | .null => none
  | _ => some ⟨(j.part "containers").items.map readContainer,
      (j.part "initContainers").items.length⟩

/-- The observed part of a pod. -/
def readStatus (j : Json) : Except Halt (Option PodStatus) := do
  let initContainers ← (j.part "initContainerStatuses").items.mapM readContainerStatus
  let containers ← (j.part "containerStatuses").items.mapM readContainerStatus
  checkTimes j ["startTime"]
  match j with
  | .null => return none
  | _ => return some ⟨(j.part "phase").shown?, (j.part "reason").shown?, containers, initContainers⟩

/-- A pod. -/
def read (j : Json) : Except Halt Pod :=
  return ⟨← readMetadata (j.part "metadata"), readSpec (j.part "spec"),
    ← readStatus (j.part "status")⟩

/-- The pods of a list. -/
def readAll (j : Json) : Except Halt (List Pod) := j.items.mapM read

/-- The name of a pod and its status, which both have to be there. -/
def nameAndStatus (pod : Pod) : Except Mistake (Option String × String) :=
  match pod.metadata, pod.status? with
  | some metadata, some status => .ok (metadata.name, status)
  | _, _ => .error .noSuchPart

end Pod
end PodReach
