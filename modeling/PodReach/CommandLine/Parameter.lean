import PodReach.CommandLine.Usage
import PodReach.Number.Decimal
import PodReach.Text.Blank
import PodReach.Text.Integer
import PodReach.Text.Similarity

/-!
# Options and words

A command line is a sequence of options and words. A long option may carry its value after an
equals sign, short ones may be joined, and two dashes end the options. Values are checked only
once the whole line is read: first those of the options in the order in which they appear, then
the words, then what is missing.
-/

namespace PodReach.CommandLine

/-- What an option carries. -/
inductive Carries
  | nothing
  | text
  | number
  | integer
  deriving DecidableEq, Repr, Inhabited

/-- An option of a command: its long name, its short one if it has one, and what it carries. -/
structure Parameter where
  name : String
  short : Option Char
  carries : Carries
  required : Bool
  deriving DecidableEq, Repr, Inhabited

/-- What words a command takes. -/
inductive Words
  | none
  | any
  /-- At least one; the name stands for them in messages. -/
  | some (name : String)
  deriving DecidableEq, Repr, Inhabited

/-- The form of a command's line. -/
structure Form where
  parameters : List Parameter
  words : Words
  deriving Repr, Inhabited

/-- An option that appears on a line, with its value. -/
structure Occurrence where
  parameter : Parameter
  value : Option String
  deriving DecidableEq, Repr, Inhabited

/-- The option that every command has. -/
def helpParameter : Parameter := ⟨"help", none, .nothing, false⟩

namespace Parameter

/-- The long name as it is written. -/
def written (p : Parameter) : String := "--" ++ p.name

/-- Every name as it is written. -/
def names (p : Parameter) : List String :=
  p.written :: (p.short.map fun c => String.ofList ['-', c]).toList

/-- Whether an option takes a value. -/
def takesValue (p : Parameter) : Bool := p.carries != .nothing

/-- Check the value of an option against what it carries. -/
def check (p : Parameter) (value : Option String) : Except UsageError Unit :=
  match p.carries, value with
  | .number, some v => if (Double.read? v).isSome then .ok () else .error (.notANumber p.written v)
  | .integer, some v =>
    if (Text.readInteger? v).isSome then .ok () else .error (.notAnInteger p.written v)
  | _, _ => .ok ()

end Parameter

/-- The options in one argument, and the option that takes its value from the next one, with the
name under which it was given. -/
structure Found where
  occurrences : List Occurrence
  pending : Option (Parameter × String)
  deriving Inhabited

/-- Short options that are joined. The first one that takes a value takes the rest of the
argument. -/
def readJoined (parameters : List Parameter) : List Char → Except UsageError Found
  | [] => .ok ⟨[], none⟩
  | c :: rest =>
    let written := String.ofList ['-', c]
    match parameters.find? (·.short == some c) with
    | none => .error (.noSuchOption written [])
    | some p =>
      if p.takesValue then
        if rest.isEmpty then .ok ⟨[], some (p, written)⟩
        else .ok ⟨[⟨p, some (String.ofList rest)⟩], none⟩
      else do
        let more ← readJoined parameters rest
        return ⟨⟨p, none⟩ :: more.occurrences, more.pending⟩

/-- The name of an option in an argument, and its value if one is attached. -/
def cutName (arg : String) : String × Option String :=
  match Text.cutAtFirst '=' arg.toList with
  | some (name, value) => (String.ofList name, some (String.ofList value))
  | none => (arg, none)

/-- The options in an argument that starts with a dash. -/
def readOption (parameters : List Parameter) (arg : String) : Except UsageError Found :=
  let (name, attached) := cutName arg
  match parameters.find? (·.written == name), attached with
  | some p, none => .ok (if p.takesValue then ⟨[], some (p, name)⟩ else ⟨[⟨p, none⟩], none⟩)
  | some p, some value =>
    if p.takesValue then .ok ⟨[⟨p, some value⟩], none⟩ else .error (.valueUnwanted name)
  | none, _ =>
    if arg.startsWith "--" then
      .error (.noSuchOption name (Text.similarWords name (parameters.map (·.written))))
    else readJoined parameters (arg.toList.drop 1)

/-- Whether an argument is read as an option: a dash with something after it. -/
def isOption (arg : String) : Bool :=
  arg.startsWith "-" && arg.length > 1

/-- A line that was read: the options on it, and its words. -/
structure Line where
  occurrences : List Occurrence
  words : List String
  deriving Inhabited

/-- Read a line. Unless options may follow words, the first word ends the options. -/
def readLine (parameters : List Parameter) (mixed : Bool) :
    List String → Except UsageError Line
  | [] => .ok ⟨[], []⟩
  | arg :: rest =>
    if arg == "--" then .ok ⟨[], rest⟩
    else if isOption arg then do
      let found ← readOption parameters arg
      match found.pending, rest with
      | none, rest => do
        let line ← readLine parameters mixed rest
        return { line with occurrences := found.occurrences ++ line.occurrences }
      | some (p, _), value :: rest => do
        let line ← readLine parameters mixed rest
        return { line with
          occurrences := found.occurrences ++ ⟨p, some value⟩ :: line.occurrences }
      | some (_, name), [] => .error (.valueMissing name)
    else if mixed then do
      let line ← readLine parameters mixed rest
      return { line with words := arg :: line.words }
    else .ok ⟨[], arg :: rest⟩

namespace Line

/-- The values of an option, in order. -/
def values (line : Line) (name : String) : List String :=
  line.occurrences.filterMap fun o => if o.parameter.name == name then o.value else none

/-- The last value of an option. -/
def last? (line : Line) (name : String) : Option String :=
  (line.values name).getLast?

/-- Whether an option appears. -/
def has (line : Line) (name : String) : Bool :=
  line.occurrences.any (·.parameter.name == name)

/-- The last value of an option as a number. -/
def number? (line : Line) (name : String) : Option Double :=
  (line.last? name).bind Double.read?

/-- The last value of an option as a whole number. -/
def integer? (line : Line) (name : String) : Option Int :=
  (line.last? name).bind Text.readInteger?

/-- The options that appear, each where it appears first. -/
def appearing (line : Line) : List Parameter :=
  (line.occurrences.map (·.parameter)).foldl
    (fun seen p => if seen.contains p then seen else seen ++ [p]) []

end Line

/-- Check a line against the form of its command. -/
def Form.check (form : Form) (line : Line) : Except UsageError Unit := do
  line.appearing.forM fun p => p.check (line.last? p.name)
  match form.words with
  | .some name => if line.words.isEmpty then throw (.wordsMissing name)
  | _ => pure ()
  form.parameters.forM fun p =>
    if p.required && !line.has p.name then throw (.optionMissing p.names) else pure ()
  match form.words with
  | .none => if line.words.isEmpty then pure () else throw (.extraWords line.words)
  | _ => pure ()

end PodReach.CommandLine
