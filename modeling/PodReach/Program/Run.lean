import PodReach.Program.Menu

/-!
# Running the program

A line is read in two steps: the options of the program, before anything else happens, and those
of the command once the settings are known. An expected failure of a command is reported in one
line and becomes an exit code.
-/

namespace PodReach.Program

open Run CommandLine

/-- How a run ends. -/
inductive Ending
  | exit (code : Int)
  | misused (error : UsageError)
  | halted (halt : Halt)
  deriving Inhabited

namespace Ending

/-- The exit code of a mistake on the command line. -/
def misuseCode : Int := 2

/-- The exit code of a run that failed. -/
def failureCode : Int := 1

/-- The exit code of a command that was interrupted. -/
def interruptCode : Int := 130

/-- The exit code of a run. -/
def code : Ending → Int
  | exit code => code
  | misused _ => misuseCode
  | halted _ => failureCode

/-- The ending that something outside a command leads to. An interrupt or the end of the input
only aborts the run. -/
def ofHalt : Halt → Ending
  | .interrupted => exit failureCode
  | .endOfInput => exit failureCode
  | halt => halted halt

end Ending

/-- The exit code of a command: its own, or the one of an expected failure, which is reported. -/
def guarded (command : Run Int) : Run Int := do
  match ← attempt command with
  | .ok code => return code
  | .error (.failed failure) => do
    Console.error failure.message
    return Ending.failureCode
  | .error (.fault (.api status reason)) => do
    let why := Fault.reasonText reason
    Console.error s!"Kubernetes API 错误: {status} {why}"
    return Ending.failureCode
  | .error .interrupted => do
    Console.line "\n[dim]操作已中断[/dim]"
    return Ending.interruptCode
  | .error halt => throw halt

/-- Build the client and the selector of a command. -/
def prepare (s : Settings) (selection : Selection) : Run Selector := do
  s.connect
  s.select selection

/-- Do what a task says; the exit code is that of a remote command, if there is one. -/
def perform (s : Settings) : Task → Run Int
  | .pods labels deployment => do
    s.connect
    Command.listPodsOf s.ns labels deployment
    return 0
  | .attach selection => do
    Command.attachToPod (← prepare s selection)
    return 0
  | .exec selection command => do
    let selector ← prepare s selection
    let code ← Command.shellIntoPod selector command (s.config.value "default_shell")
    return code.getD 0
  | .logs selection follow tail => do
    let selector ← prepare s selection
    let tail := match tail with
      | some n => Yaml.integer n
      | none => s.config.value "default_log_lines"
    Command.viewLogs selector follow tail
    return 0
  | .portForward selection ports addresses => do
    let selector ← prepare s selection
    let addresses := if addresses.isEmpty then [s.config.value "port_forward_address"]
      else addresses.map Yaml.text
    Command.forwardPorts selector ports addresses
    return 0
  | .wait selection => do
    let _ ← Command.waitForPods (← prepare s selection)
    return 0
  | .init secrets => do
    s.connect
    Command.initCluster s.ns secrets
    return 0

/-- What a run leaves behind besides the world: how it ended, and the directory of its logs if
the settings changed it. -/
structure Outcome where
  ending : Ending
  logDirectory : Option String
  deriving Inhabited

/-- Run the command of a name with its arguments, or the menu. -/
def runCommand (s : Settings) (command : Option (Name × List String)) : Run Ending := do
  match command with
  | none => do
    Menu.run s
    return .exit 0
  | some (name, args) =>
    match name.read args with
    | .error error => return .misused error
    | .ok .help => return .exit 0
    | .ok (.asks task) => return .exit (← guarded (perform s task))

/-- Turn a halt outside of commands into an ending. -/
def concluded (action : Run Ending) : Run Ending := do
  match ← attempt action with
  | .ok ending => return ending
  | .error halt => return .ofHalt halt

/-- Run with the options of the program; the configuration comes first. -/
def runWith (format : Config.Format) (asks : Bool) (globals : Globals)
    (command : Option (Name × List String)) : Run Outcome := do
  match ← attempt (Config.load format asks) with
  | .error halt => return ⟨.ofHalt halt, none⟩
  | .ok config =>
    let s := Settings.make globals config
    let directory := s.logDirectory? (← get).home
    return ⟨← concluded (s.setLogDirectory >>= fun _ => runCommand s command), directory⟩

/-- Run the program on a command line. -/
def run (format : Config.Format) (asks : Bool) (args : List String) : Run Outcome := do
  match readGlobals args with
  | .error error => return ⟨.misused error, none⟩
  | .ok .help => return ⟨.exit 0, none⟩
  | .ok (.asks (globals, [])) => runWith format asks globals none
  | .ok (.asks (globals, name :: rest)) =>
    match Name.ofText? name with
    | none => return ⟨.misused (.noSuchCommand name), none⟩
    | some known => runWith format asks globals (some (known, rest))

end PodReach.Program
