import PodReach.LogFile
import PodReach.Session.Relay

/-!
# Attaching to a container

A session connects the local terminal to a container: to its main process, or to a command that
is started in it. It gets a terminal when the container has one, or, for a command, when the
local input is one; then the local terminal is raw while the session lasts and its size is
passed on. Once the size was sent, the terminal is restored and the stream is closed whatever
happens. Before anything else the log file of sessions is opened; without it there is no session.
-/

namespace PodReach.Session

open Run

/-- The word shown for a truth value. -/
def truthWord (b : Bool) : String := if b then "True" else "False"

/-- Whether the local input is a terminal. -/
def onTerminal (stdin : StandardInput) : Bool :=
  stdin.descriptor && stdin.terminal

/-- Whether a session gets a terminal. -/
def wantsTerminal (stdin : StandardInput) (container : Container) (command : List String) : Bool :=
  if command.isEmpty then container.tty else onTerminal stdin

/-- Warn if the main process of a container cannot be talked to. -/
def warnUnlessInteractive (container : Container) : Run Unit := do
  if !container.tty || !container.stdin then
    let tty := truthWord container.tty
    let stdin := truthWord container.stdin
    Console.warning
      s!"要与容器交互, tty (当前 `{tty}`) 和 stdin (当前 `{stdin}`) 都必须为 true"

/-- Whether a fault is one that opening a connection is expected to report. -/
def expectedOnOpen : Fault → Bool
  | .api _ _ | .websocket _ | .os _ => true
  | .http _ => false

/-- Make the local terminal raw. -/
def makeRaw : Run Unit := do
  record (.traffic .rawEntered)
  modify fun w => { w with terminalAttributes := w.terminalAttributes.raw }

/-- Give the local terminal back the attributes that it had. -/
def restoreTerminal (saved : TerminalAttributes) : Run Unit := do
  record (.traffic .rawLeft)
  modify fun w => { w with terminalAttributes := saved }

/-- Do something while the local terminal is raw, if it is to be, and restore the terminal whatever
comes of it. -/
def withRawTerminal {α : Type} (raw : Bool) (action : Run α) : Run α := do
  if raw then
    let saved := (← get).terminalAttributes
    always (makeRaw >>= fun _ => action) (restoreTerminal saved)
  else action

/-- Start a session: the other side learns the size of its terminal, also when it changes. -/
def beginSession (script : StreamScript) (tty : Bool) : Run Unit := do
  if tty then
    sendTerminalSize script.sizeFault
    record (.traffic .resizeWatched)

/-- Wait for what came of a relay; someone may interrupt the waiting. -/
def awaitRelay (script : StreamScript) (outcome : Except Halt (Option Int)) : Run (Option Int) :=
  if script.interrupted then throw .interrupted else MonadExcept.ofExcept outcome

/-- Log how a session ended, and end that way. -/
def reportEnding (label : String) : Except Halt (Option Int) → Run (Option Int)
  | .ok code => do
    let shown := match code with
      | some n => toString n
      | none => "None"
    Log.write .info s!"会话结束: {label} exit={shown}"
    return code
  | .error (.failed failure) => do
    Log.write .error s!"会话中断: {failure.message}"
    fail failure
  | .error halt => throw halt

/-- The session of an open stream, up to its end. -/
def runSession (script : StreamScript) (tty : Bool) (label : String) : Run (Option Int) := do
  let relayed ← attempt (relay tty (!tty) script)
  let raw := tty && onTerminal (← get).stdin
  reportEnding label (← attempt (withRawTerminal raw (awaitRelay script relayed)))

/-- What the end of a session restores and closes. -/
def endSession (tty : Bool) : Run Unit := do
  if tty then record (.traffic .resizeUnwatched)
  record (.traffic .streamClosed)

/-- A session whose stream is open: how the stream behaves, whether the session has a terminal, and
what the session is called. -/
structure Opened where
  script : StreamScript
  tty : Bool
  label : String
  deriving DecidableEq, Repr, Inhabited

/-- The name of the log of sessions. -/
def logName : String := "attach"

/-- Open the log and the stream of a session. -/
def openSession (pod : Pod) (container : Container) (command : Option (List String)) :
    Run Opened := do
  Log.openFile logName
  let words := command.getD []
  let tty := wantsTerminal (← get).stdin container words
  if words.isEmpty then warnUnlessInteractive container
  let metadata ← need pod.metadata
  let ns := (Yaml.ofText? metadata.ns).orElse (← get).cluster.ns
  let podName := Text.orNone metadata.name
  let containerName := Text.orNone container.name
  Console.info s!"正在连接 pod:container [bold]{podName}[/bold]:[bold]{containerName}[/bold]"
  Console.line "[dim]如果没有看到命令提示符，请尝试按回车[/dim]"
  match ← attempt (Cluster.openStream metadata.name ns container.name command tty) with
  | .error (.fault fault) =>
    if expectedOnOpen fault then
      Log.write .error s!"打开 {podName}/{containerName} 的会话失败: {fault.detail}"
      fail (.cannotConnect podName containerName fault.detail)
    else throw (.fault fault)
  | .error halt => throw halt
  | .ok script => return ⟨script, tty, podName ++ "/" ++ containerName⟩

/-- What is logged about a session once its stream is open. -/
def logOpened (command : Option (List String)) (opened : Opened) : Run Unit := do
  let commandText := match command with
    | some ws => Text.quotedList ws
    | none => "None"
  let ttyText := truthWord opened.tty
  Log.write .info s!"会话已建立: {opened.label} command={commandText} tty={ttyText}"

/-- Attach to a container and stay until the session ends: the exit code, if there is one. -/
def attach (pod : Pod) (container : Container) (command : Option (List String)) :
    Run (Option Int) := do
  let opened ← openSession pod container command
  logOpened command opened
  beginSession opened.script opened.tty
  always (runSession opened.script opened.tty opened.label) (endSession opened.tty)

end PodReach.Session
