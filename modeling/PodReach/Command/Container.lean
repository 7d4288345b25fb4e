import PodReach.Command.Target
import PodReach.Session.Attach
import PodReach.Session.LogLines

/-!
# Commands on a container

Attaching to its main process, running a command or a shell in it, and viewing its log.
-/

namespace PodReach.Command

open Run Session

/-- Attach to the main process of a container. -/
def attachToPod (selector : Selector) : Run Unit := do
  match ← resolveTarget selector true with
  | none => pure ()
  | some (pod, container) =>
    let _ ← attach pod container none
    let name := Text.orNone pod.name?
    Console.line s!"\n[dim]主人，已断开 {name}[/dim]"

/-- The shell that is tried first unless another one is set. -/
def usualShell : String := "/bin/bash"

/-- The shell that is tried when the usual one does not start. -/
def plainShell : String := "/bin/sh"

/-- Whether an exit code says that a shell did not start. -/
def shellMissing (code : Option Int) : Bool := code == some 126 || code == some 127

/-- The words of the command to run: the given ones, else the shell. A shell that is no text
cannot be run. -/
def shellWords (command : List String) (shell : Yaml) : Except Halt (List String) :=
  if !command.isEmpty then .ok command
  else match shell with
    | .text s => .ok [s]
    | _ => .error (.mistake .wrongKind)

/-- Whether the session of a shell is repeated with the plain one. -/
def fallsBack (command : List String) (shell : Yaml) (code : Option Int) : Bool :=
  command.isEmpty && shellMissing code && Yaml.same shell (.text usualShell)

/-- Run a command in a container, or a shell if there is none: the exit code of the last
session. -/
def shellIntoPod (selector : Selector) (command : List String) (shell : Yaml) :
    Run (Option Int) := do
  match ← resolveTarget selector true with
  | none => return none
  | some (pod, container) =>
    let words ← MonadExcept.ofExcept (shellWords command shell)
    let shown := " ".intercalate words
    Console.line s!"[dim]命令: {shown} | 输入 exit 退出容器[/dim]\n"
    let first ← attach pod container (some words)
    let last ← if fallsBack command shell first then attach pod container (some [plainShell])
      else pure first
    let name := Text.orNone pod.name?
    Console.line s!"\n[dim]主人，已退出容器 {name}[/dim]"
    return last

/-- The style of a log line: errors are red, warnings yellow. -/
def lineStyle (line : String) : Option String :=
  if Text.contains line "ERROR" || Text.contains line "error" then some "red"
  else if Text.contains line "WARNING" || Text.contains line "warning"
      || Text.contains line "WARN" then some "yellow"
  else none

/-- Print a log line as it is, in its style. -/
def printLine (line : String) : Run Unit :=
  Console.styled line (lineStyle line)

/-- View the log of a container. Interrupting the lines ends the view, not the program. -/
def viewLogs (selector : Selector) (follow : Bool) (tail : Yaml) : Run Unit := do
  match ← resolveTarget selector true with
  | none => pure ()
  | some (pod, container) =>
    let podName := Text.orNone pod.name?
    let containerName := Text.orNone container.name
    if follow then
      Console.info s!"正在追踪 {podName} ({containerName}) 的日志... (Ctrl+C 退出)"
    else
      Console.info s!"正在获取 {podName} ({containerName}) 的日志..."
    Console.line ""
    let viewed ← attempt do
      let (lines, ending) ← logLines pod container.name follow tail
      lines.forM printLine
      match ending with
      | some halt => throw halt
      | none => return lines.length
    match viewed with
    | .ok count => if count = 0 && !follow then Console.warning "日志为空"
    | .error .interrupted => Console.line "\n[dim]主人，已退出日志追踪[/dim]"
    | .error halt => throw halt

end PodReach.Command
