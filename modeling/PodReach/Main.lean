import PodReach.Program.Run

/-!
# The program

Reads the settings from their files, runs the program on its arguments and prints what appears
on the console. The program has no connection to a cluster of its own: every call to one answers
that it cannot be reached.
-/

namespace PodReach.Program

/-- What every call answers without a connection. -/
def unreachable : Fault := .http "cluster unreachable"

/-- A cluster that cannot be reached. -/
def offline : Cluster :=
  { Cluster.empty with broken := fun _ _ => some unreachable }

/-- The lines that an entry of the journal shows on a console without colours. -/
def shownLines : Entry → List String
  | .display (.line text) => [text]
  | .display (.styled text _) => [text]
  | .display (.panel text title) => title.toList ++ [text]
  | .display (.table table) =>
    table.title :: (table.columns.map Column.title :: table.rows).map fun cells =>
      "  ".intercalate cells
  | .display (.choice message choices _) => message :: choices
  | .display (.question message) => [message]
  | .display (.numberQuestion message _ _ _) => [message]
  | .display (.spinner text) => [text]
  | _ => []

/-- What is said about a run that did not end by itself. -/
def complaint : Ending → Option String
  | .misused error => some s!"Error: {error.message}"
  | .halted (.fault fault) => some fault.detail
  | _ => none

/-- What lies at a path, if anything does. -/
def presentFile (path : String) : IO Files := do
  try
    return [(path, .file (← IO.FS.readFile path))]
  catch
    | .noFileOrDirectory .. => return []
    | .userError _ => return [(path, .garbled)]
    | _ => return [(path, .locked)]

/-- The world of this process: its environment and its settings files. -/
def surroundings : IO World := do
  let home := (← IO.getEnv "HOME").getD "/"
  let directory := toString (← IO.currentDir)
  let world := { World.empty with
    cluster := offline
    home := home
    directory := directory
    settingsPath := ← IO.getEnv "DEVKUBE_CONFIG" }
  let files ← (Config.candidates world).mapM presentFile
  return { world with files := files.flatten }

/-- Run the program and print what it shows. -/
def execute (args : List String) : IO UInt32 := do
  match Program.run Config.yamlFormat false args (← surroundings) with
  | (.ok outcome, world) =>
    world.journal.toList.forM fun entry => (shownLines entry).forM IO.println
    (complaint outcome.ending).toList.forM fun text => IO.eprintln text
    return UInt32.ofNat (outcome.ending.code % 256).toNat
  | (.error _, _) => return 1

end PodReach.Program

/-- Run the program on the arguments of the process. -/
def main (args : List String) : IO UInt32 :=
  PodReach.Program.execute args
