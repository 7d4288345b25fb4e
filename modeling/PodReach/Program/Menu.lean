import PodReach.Command.Container
import PodReach.Command.Forward
import PodReach.Command.Pods
import PodReach.Program.Settings

/-!
# The menu

Without a command the program shows a menu, does what is chosen and shows the menu again. It
ends when that is chosen, or when someone interrupts it at a prompt of its own. A failure or an
interrupt of an action is reported and leads back to the menu.
-/

namespace PodReach.Program

open Run

/-- What can be chosen in the menu. -/
inductive Choice
  | pods
  | exec
  | attach
  | logs
  | portForward
  | quit
  deriving DecidableEq, Repr, Inhabited

namespace Menu

/-- The choices as they are shown. -/
def choices : List (String × Choice) := [
  ("📋 查看 Pods 状态", .pods),
  ("🖥️  进入容器终端", .exec),
  ("🔗 attach 到容器", .attach),
  ("📜 查看容器日志", .logs),
  ("🔌 端口转发", .portForward),
  ("❌ 退出", .quit)]

/-- The head of the menu. -/
def banner : String := "🚀 devkube\n   开发集群里的 Pod 连接工具"

/-- Show the head of the menu. -/
def showHead (s : Settings) : Run Unit := do
  Console.display .cleared
  Console.display (.panel banner none)
  let ns := (s.ns.orElse (.text "(kubeconfig 默认)")).shown
  Console.line s!"[dim]命名空间: {ns}[/dim]\n"

/-- Take leave. -/
def farewell : Run Unit :=
  Console.line "\n[cyan]👋 主人再见！[/cyan]"

/-- The result of a prompt; nothing if it was interrupted or the input ended. -/
def unlessLeft {α : Type} (prompt : Run α) : Run (Option α) := do
  match ← attempt prompt with
  | .ok a => return some a
  | .error .interrupted => return none
  | .error .endOfInput => return none
  | .error halt => throw halt

/-- Do what was chosen. -/
def act (s : Settings) (selector : Selector) : Choice → Run Unit
  | .pods => Command.listPodsOf s.ns "" none
  | .exec => do
    let _ ← Command.shellIntoPod selector [] (s.config.value "default_shell")
  | .attach => Command.attachToPod selector
  | .logs => Command.viewLogs selector false (s.config.value "default_log_lines")
  | .portForward => do
    let ports := Text.words (← Console.ask "主人，请输入端口 (如 8080:80，多个用空格分隔)")
    if !ports.isEmpty then
      Command.forwardPorts selector ports [s.config.value "port_forward_address"]
  | .quit => pure ()

/-- Do what was chosen, with the client built before the first action. -/
def perform (s : Settings) (connected : Bool) (choice : Choice) : Run Unit := do
  if !connected then s.connect
  act s (← s.select .none) choice

/-- Report how an action ended, if it did not end well. -/
def report : Except Halt Unit → Run Unit
  | .ok _ => pure ()
  | .error .interrupted => Console.line "\n[dim]操作已中断[/dim]"
  | .error (.failed failure) => Console.error s!"执行出错: {failure.message}"
  | .error (.fault (.api status reason)) =>
    Console.error ("执行出错: " ++ (Fault.api status reason).detail)
  | .error halt => throw halt

/-- Show the menu until it is left. Every round takes an answer, so the number of answers bounds
the rounds. -/
def loop (s : Settings) : (rounds : Nat) → (connected : Bool) → Run Unit
  | 0, _ => throw .endless
  | rounds + 1, connected => do
    showHead s
    match ← unlessLeft (Console.choose "主人，请选择操作" choices none) with
    | none => farewell
    | some .quit => farewell
    | some choice => do
      Console.line ""
      report (← attempt (perform s connected choice))
      Console.line ""
      match ← unlessLeft (Console.ask "主人，按回车键返回主菜单...") with
      | none => farewell
      | some _ => loop s rounds true

/-- Run the menu. -/
def run (s : Settings) : Run Unit := do
  loop s ((← get).answers.length + 1) false

end Menu
end PodReach.Program
