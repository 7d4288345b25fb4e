import PodReach.Pod.Status
import PodReach.World.Effects

/-!
# Showing pods and containers, and letting someone choose

A table of pods, and the two prompts that offer pods or containers. A prompt always ends with
the choice to go back, which chooses nothing.
-/

namespace PodReach

open Run

namespace Pod

/-- The columns of a table of pods. -/
def columns : List Column := [
  ⟨"#", some "dim", false, some 4, none⟩,
  ⟨"名称", some "cyan", false, none, some 30⟩,
  ⟨"READY", none, true, some 8, none⟩,
  ⟨"状态", none, true, some 22, none⟩,
  ⟨"重启", none, true, some 6, none⟩,
  ⟨"存活", none, false, some 10, none⟩]

/-- A table of pods. -/
def table (title : String) (rows : List (List String)) : Table :=
  ⟨title, "dim", false, columns, rows⟩

/-- The title of a table of pods unless one is given. -/
def usualTitle : String := "Pods 状态"

/-- How many containers of a pod are ready. -/
def readyCount (status : PodStatus) : Nat := status.containers.countP (·.ready)

/-- How often the containers of a pod were restarted. -/
def restartCount (status : PodStatus) : Int := status.containers.foldl (fun n c => n + c.restarts) 0

/-- The row of a pod, or nothing if a part of the pod is missing. -/
def row? (now : Instant) (index : Nat) (pod : Pod) : Option (List String) :=
  match pod.metadata, pod.spec, pod.status with
  | some metadata, some spec, some status =>
    some [toString index, metadata.name.getD "",
      s!"{readyCount status}/{spec.containers.length}",
      Status.colorize (statusOf metadata spec status), toString (restartCount status),
      Age.since metadata.created now]
  | _, _, _ => none

/-- The rows of a list of pods, numbered from `index`. -/
def rows? (now : Instant) : Nat → List Pod → Option (List (List String))
  | _, [] => some []
  | index, pod :: rest => do
    let row ← row? now index pod
    let rows ← rows? now (index + 1) rest
    some (row :: rows)

/-- Show a table of pods. -/
def showTable (pods : List Pod) (title : String) : Run Unit := do
  let rows ← need (rows? (← get).now 1 pods)
  Console.table (table title rows)

/-- The choice that chooses nothing. -/
def goBack : String := "↩️  返回上一级"

/-- The name under which a pod is offered. -/
def choiceName? (pod : Pod) : Option String := do
  let metadata ← pod.metadata
  let status ← pod.status?
  some (Text.orNone metadata.name ++ s!"  ({status})")

/-- Let someone choose one of several pods. A single pod is not asked about. -/
def choose (pods : List Pod) (message : String) : Run (Option Pod) := do
  match pods with
  | [] =>
    Console.line "[yellow]⚠️  主人，没有可选的 Pod[/yellow]"
    return none
  | [pod] => return some pod
  | _ =>
    let choices ← need (pods.mapM fun pod => (choiceName? pod).map fun name => (name, some pod))
    Console.choose s!"主人，{message}" (choices ++ [(goBack, none)]) none

/-- The question about pods unless one is given. -/
def usualQuestion : String := "请选择 Pod"

end Pod

namespace Container

/-- The name under which a container is offered. -/
def choiceName (c : Container) : String :=
  let image := Text.orNone c.image
  Text.orNone c.name ++ s!"  ({image})"

/-- Let someone choose one of several containers. A single container is not asked about. -/
def choose (containers : List Container) (message : String) : Run (Option Container) := do
  match containers with
  | [] => return none
  | [c] => return some c
  | _ =>
    Console.choose s!"主人，{message}"
      (containers.map (fun c => (choiceName c, some c)) ++ [(Pod.goBack, none)]) none

/-- The question about containers unless one is given. -/
def usualQuestion : String := "请选择容器"

end Container
end PodReach
