import PodReach.Command.Selection
import PodReach.CommandLine.Parameter

/-!
# What a command line asks for

Options of the whole program come first, then the name of a command, then the command's own
options and words. A line without a command asks for the menu.
-/

namespace PodReach.CommandLine

/-- What one run of the program is to do. -/
inductive Task
  | pods (labels : String) (deployment : Option String)
  | attach (selection : Selection)
  | exec (selection : Selection) (command : List String)
  | logs (selection : Selection) (follow : Bool) (tail : Option Int)
  | portForward (selection : Selection) (ports addresses : List String)
  | wait (selection : Selection)
  | init (secrets : List String)
  deriving Inhabited

/-- The options of the whole program. -/
structure Globals where
  ns : Option String
  context : Option String
  kubeconfig : Option String
  deriving DecidableEq, Repr, Inhabited

/-- The names of the commands. -/
inductive Name
  | pods
  | attach
  | exec
  | logs
  | portForward
  | wait
  | init
  deriving DecidableEq, Repr, Inhabited

namespace Name

/-- The commands by the names under which they are called. -/
def table : List (String × Name) := [
  ("pods", .pods), ("attach", .attach), ("exec", .exec), ("logs", .logs),
  ("port-forward", .portForward), ("wait", .wait), ("init", .init)]

/-- The command of a name. -/
def ofText? (name : String) : Option Name := table.lookup name

end Name

/-- An option that carries a text. -/
def textOption (name : String) (short : Option Char) : Parameter := ⟨name, short, .text, false⟩

/-- The options of the whole program. -/
def globalParameters : List Parameter := [
  textOption "namespace" (some 'n'),
  textOption "context" none,
  textOption "kubeconfig" none,
  ⟨"verbose", some 'v', .nothing, false⟩,
  helpParameter]

/-- The option for the longest wait. -/
def maxWaitOption : Parameter := ⟨"max-wait", none, .number, false⟩

/-- The options of commands on a container. -/
def targetParameters : List Parameter := [
  textOption "pod" (some 'p'),
  textOption "container" (some 'c'),
  textOption "label-selector" (some 'l'),
  textOption "image" (some 'i'),
  textOption "deployment" (some 'd'),
  maxWaitOption]

/-- The form of each command's line. -/
def Name.form : Name → Form
  | .pods => ⟨[textOption "label-selector" (some 'l'), textOption "deployment" (some 'd'),
      helpParameter], .none⟩
  | .attach => ⟨targetParameters ++ [helpParameter], .none⟩
  | .exec => ⟨targetParameters ++ [helpParameter], .any⟩
  | .logs => ⟨targetParameters ++ [⟨"follow", some 'f', .nothing, false⟩,
      ⟨"tail", none, .integer, false⟩, helpParameter], .none⟩
  | .portForward => ⟨targetParameters ++ [textOption "address" none, helpParameter],
      .some "PORTS..."⟩
  | .wait => ⟨[⟨"image", some 'i', .text, true⟩, textOption "label-selector" (some 'l'),
      maxWaitOption, helpParameter], .none⟩
  | .init => ⟨[textOption "pull-secret" none, helpParameter], .none⟩

/-- The selection that the options of a line make. -/
def Line.selection (line : Line) : Selection where
  podName := line.last? "pod"
  containerName := line.last? "container"
  labels := (line.last? "label-selector").getD ""
  images := line.values "image"
  deployment := line.last? "deployment"
  maxWait := match line.number? "max-wait" with
    | some x => .number x
    | none => .null

/-- The task that a line of a command asks for. -/
def Name.task (name : Name) (line : Line) : Task :=
  match name with
  | .pods => .pods ((line.last? "label-selector").getD "") (line.last? "deployment")
  | .attach => .attach line.selection
  | .exec => .exec line.selection line.words
  | .logs => .logs line.selection (line.has "follow") (line.integer? "tail")
  | .portForward => .portForward line.selection line.words (line.values "address")
  | .wait => .wait line.selection
  | .init => .init (line.values "pull-secret")

/-- What comes of a line that is read: help is shown, or there is something to do. -/
inductive Reading (α : Type)
  | help
  | asks (what : α)
  deriving DecidableEq, Repr, Inhabited

/-- Read the line of a command. Help comes before any check of values. -/
def Name.read (name : Name) (args : List String) : Except UsageError (Reading Task) := do
  let line ← readLine name.form.parameters true args
  if line.has helpParameter.name then return .help
  name.form.check line
  return .asks (name.task line)

/-- The options of the whole program, and the rest of the line, which starts with the name of a
command. -/
def readGlobals (args : List String) : Except UsageError (Reading (Globals × List String)) := do
  let line ← readLine globalParameters false args
  if line.has helpParameter.name then return .help
  return .asks (⟨line.last? "namespace", line.last? "context", line.last? "kubeconfig"⟩, line.words)

end PodReach.CommandLine
