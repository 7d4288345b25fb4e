import PodReach.Text.Quoted

/-!
# Mistakes on the command line

Each has one wording.
-/

namespace PodReach.CommandLine

/-- Why a command line cannot be understood. -/
inductive UsageError
  | noSuchOption (name : String) (similar : List String)
  | valueMissing (name : String)
  | valueUnwanted (name : String)
  | noSuchCommand (name : String)
  | notANumber (option value : String)
  | notAnInteger (option value : String)
  | optionMissing (names : List String)
  | wordsMissing (name : String)
  | extraWords (words : List String)
  deriving DecidableEq, Repr, Inhabited

namespace UsageError

/-- A name between quotes. -/
def named (name : String) : String :=
  "'" ++ name ++ "'"

/-- The text shown for a mistake. -/
def message : UsageError → String
  | noSuchOption name similar =>
    let start := s!"No such option: {name}"
    match similar with
    | [] => start
    | [one] => start ++ s!" Did you mean {one}?"
    | several =>
      let joined := ", ".intercalate several
      start ++ s!" (Possible options: {joined})"
  | valueMissing name => "Option " ++ Text.quoted name ++ " requires an argument."
  | valueUnwanted name => "Option " ++ Text.quoted name ++ " does not take a value."
  | noSuchCommand name => "No such command " ++ Text.quoted name ++ "."
  | notANumber option value =>
    "Invalid value for " ++ named option ++ ": " ++ Text.quoted value ++ " is not a valid float."
  | notAnInteger option value =>
    "Invalid value for " ++ named option ++ ": " ++ Text.quoted value ++ " is not a valid integer."
  | optionMissing names => "Missing option " ++ " / ".intercalate (names.map named) ++ "."
  | wordsMissing name => "Missing argument " ++ named name ++ "."
  | extraWords words =>
    let joined := " ".intercalate words
    match words with
    | [_] => s!"Got unexpected extra argument ({joined})"
    | _ => s!"Got unexpected extra arguments ({joined})"

end UsageError
end PodReach.CommandLine
