import PodReach.Kubeconfig.Part
import PodReach.World.Path

/-!
# Plugins for credentials

A user can name a program that issues credentials. What is wrong with its description, or why it
cannot be started, is only logged. A description is checked in the order in which it is used: the
names that it needs, its arguments, its environment, what it is told about the cluster.
-/

namespace PodReach.Kubeconfig.Plugin

/-- What is wrong with a plugin, as the log says it. -/
abbrev Checked := Except String

/-- The name of the kind of a value. -/
def kindName : Yaml → String
  | .null => "NoneType"
  | .bool _ => "bool"
  | .integer _ => "int"
  | .number _ => "float"
  | .text _ => "str"
  | .bytes _ => "bytes"
  | .date _ => "datetime.date"
  | .moment _ => "datetime.datetime"
  | .list _ => "list"
  | .pair _ _ => "tuple"
  | .set _ => "set"
  | .map _ => "dict"
  | .loop isMap => if isMap then "dict" else "list"

/-- The name of the kind of a part: mappings and lists keep their place with them. -/
def partKind (value : Yaml) : String :=
  if value.isCollection then "ConfigNode" else kindName value

/-- The text for a part that is missing or null. -/
def missing (label name : String) : String :=
  s!"Invalid kube-config file. Expected key {name} in {label}"

/-- Whether something stands under a name. -/
def has (value : Yaml) (name : String) : Checked Bool :=
  match value.holds name with
  | .ok found => .ok found
  | .error _ =>
    match value with
    | .bytes _ => .error "a bytes-like object is required, not 'str'"
    | other => .error ("argument of type '" ++ kindName other ++ "' is not iterable")

/-- The text for a value that is asked by name and is no mapping. -/
def notNamed : Yaml → String
  | .text _ => "string indices must be integers, not 'str'"
  | .list _ => "list indices must be integers or slices, not str"
  | .bytes _ => "byte indices must be integers or slices, not str"
  | other => "'" ++ kindName other ++ "' object is not subscriptable"

/-- What stands under a name of a part. -/
def under (label : String) (value : Yaml) (name : String) : Checked Yaml := do
  match value with
  | .map entries =>
    match (Yaml.lookup? name entries).getD .null with
    | .null => throw (missing label name)
    | found => return found
  | .list _ => if ← has value name then throw (notNamed value) else throw (missing label name)
  | other => throw (notNamed other)

/-- The parts of a mapping by number, up to the first number that it does not have. -/
def numbered (label : String) (entries : List (Yaml × Yaml)) : Nat → Nat → String
  | 0, n => missing label (toString n)
  | fuel + 1, n =>
    match entries.find? fun (key, _) => Yaml.same key (.integer n) with
    | some (_, .null) | none => missing label (toString n)
    | some _ => numbered label entries fuel (n + 1)

/-- The items of a list from a place on, none of which may be null. -/
def itemsFrom (label : String) : Nat → List Yaml → Checked (List Yaml)
  | _, [] => .ok []
  | n, .null :: _ => .error (missing label (toString n))
  | n, item :: rest => do return item :: (← itemsFrom label (n + 1) rest)

/-- The items of a part that is gone through one by one. -/
def items (label : String) (value : Yaml) : Checked (List Yaml) :=
  match value with
  | .list parts => itemsFrom label 0 parts
  | .map entries => .error (numbered label entries entries.length 0)
  | other =>
    match other.parts with
    | .ok parts => .ok parts
    | .error _ => .error ("'" ++ kindName other ++ "' object is not iterable")

/-- An optional part of a description; nothing if it counts as false. -/
def optional? (description : Yaml) (name : String) : Option Yaml :=
  match description with
  | .map entries => (Yaml.lookup? name entries).filter (·.truthy)
  | _ => none

/-- The name and the value of a variable of the environment. -/
def envVariable (label : String) (item : Yaml) : Checked (Yaml × Yaml) := do
  let name ← under label item "name"
  let value ← under label item "value"
  match name with
  | .set _ => throw "unhashable type: 'set'"
  | _ => return (name, value)

/-- The variables of an environment, from a place on. -/
def variablesFrom (label : String) : Nat → List Yaml → Checked (List (Yaml × Yaml))
  | _, [] => .ok []
  | n, item :: rest => do
    let first ← envVariable s!"{label}/{n}" item
    return first :: (← variablesFrom label (n + 1) rest)

mutual

/-- What cannot be written as JSON in a value, if there is something. -/
def unwritable? : Yaml → Option String
  | .bytes _ => some "Object of type bytes is not JSON serializable"
  | .date _ => some "Object of type date is not JSON serializable"
  | .moment _ => some "Object of type datetime is not JSON serializable"
  | .set _ => some "Object of type set is not JSON serializable"
  | .list parts => unwritableItem? parts
  | .map entries => unwritableEntry? entries
  | _ => none

/-- What cannot be written in the items of a list. -/
def unwritableItem? : List Yaml → Option String
  | [] => none
  | item :: rest => (unwritable? item).orElse fun _ => unwritableItem? rest

/-- What cannot be written in the entries of a mapping, keys included. -/
def unwritableEntry? : List (Yaml × Yaml) → Option String
  | [] => none
  | (key, value) :: rest =>
    let badKey : Option String := match key with
      | .bytes _ | .pair _ _ => some (kindName key)
      | .date _ => some "date"
      | .moment _ => some "datetime"
      | _ => none
    match badKey with
    | some kind => some s!"keys must be str, int, float, bool or None, not {kind}"
    | none => (unwritable? value).orElse fun _ => unwritableEntry? rest

end

/-- Check what a plugin is told: the version of its interface, and the cluster if it wants to know
it. -/
def checkTold (version : Yaml) (cluster : Option Yaml) : Checked Unit :=
  let refused : Option String :=
    if version.isCollection then some "Object of type ConfigNode is not JSON serializable"
    else unwritable? version
  match refused.orElse fun _ => cluster.bind unwritable? with
  | some text => .error text
  | none => .ok ()

/-- A word of a command or an environment. -/
def word (value : Yaml) : Checked (List Char) :=
  match value with
  | .text s => .ok s.toList
  | .bytes b => .ok (b.map fun byte => Char.ofNat byte.toNat)
  | other => .error ("expected str, bytes or os.PathLike object, not " ++ partKind other)

/-- The text for a word that holds a null character. -/
def nullInside : String := "embedded null byte"

/-- Check the variables of an environment. -/
def checkVariables (environment : List (Yaml × Yaml)) : Checked Unit :=
  environment.forM fun (name, value) => do
    let name ← word name
    if name.contains '=' then throw "illegal environment variable name"
    let _ ← word value

/-- The text for a program that cannot be started. -/
def unstarted (code : Nat) (reason : String) (program : Yaml) : String :=
  s!"[Errno {code}] {reason}: " ++ program.inner

/-- Why a program cannot be started from a kubeconfig file: there is none, or what has its name is
no program. A name without a slash is looked for where programs are. -/
def obstacle (w : World) (kubeconfig : String) (program : Yaml) (path : String) : String :=
  let parts := Text.split '/' path
  if parts.any fun part => Path.longestName < part.utf8ByteSize then
    unstarted 36 "File name too long" program
  else if ["", ".", ".."].contains path then unstarted 13 "Permission denied" program
  else if parts.length == 1 then unstarted 2 "No such file or directory" program
  else
    let place := w.fullPath (Path.directoryOf (w.fullPath w.directory kubeconfig)) path
    let steps := Text.split '/' place
    let onTheWay := (List.range steps.length).map fun n => "/".intercalate (steps.take n)
    if w.existsAt place then unstarted 13 "Permission denied" program
    else if onTheWay.any w.isFileAt then unstarted 20 "Not a directory" program
    else unstarted 2 "No such file or directory" program

/-- Check the description of a plugin, and say why it cannot be started. -/
def complaint (w : World) (user cluster : Part) : Checked Empty := do
  if !cluster.value.isCollection then
    throw ("'" ++ kindName cluster.value ++ "' object has no attribute 'path'")
  let description ← under user.label user.value "exec"
  let label := user.label ++ "/exec"
  ["command", "apiVersion"].forM fun name => do
    if !(← has description name) then
      throw ("exec: malformed request. missing key '" ++ name ++ "'")
  let version ← under label description "apiVersion"
  let program ← under label description "command"
  let words ← match optional? description "args" with
    | some given => items (label ++ "/args") given
    | none => pure []
  let environment ← match optional? description "env" with
    | some given => variablesFrom (label ++ "/env") 0 (← items (label ++ "/env") given)
    | none => pure []
  let told := (optional? description "provideClusterInfo").map fun _ => cluster.value
  checkTold version (told.filter (·.truthy))
  let path ← word program
  checkVariables environment
  (program :: words).forM fun given => do
    if (← word given).contains '\x00' then throw nullInside
  environment.forM fun (name, value) => do
    if ((← word name) ++ (← word value)).contains '\x00' then throw nullInside
  throw (obstacle w user.file program (String.ofList path))

/-- The line that is logged about a plugin. -/
def logLine (w : World) (user cluster : Part) : String :=
  match complaint w user cluster with
  | .error text => text
  | .ok never => nomatch never

end PodReach.Kubeconfig.Plugin
