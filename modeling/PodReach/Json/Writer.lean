import PodReach.Json.Value

/-!
# Writing JSON

One line without spaces. Quotes, backslashes, control characters and halves of surrogate pairs
are escaped, everything else is written as it is.
-/

namespace PodReach.Json

/-- One character inside a written text. -/
def writtenChar (c : Char) : List Char :=
  if c == '"' || c == '\\' then ['\\', c]
  else if c == '\n' then ['\\', 'n']
  else if c.toNat < 0x20 || c.toNat == 0x7F || Text.isStandIn c then
    '\\' :: 'u' :: Text.hexDigits 4 (Text.unitOfChar c)
  else [c]

/-- A text between quotes. -/
def writeText (s : String) : String :=
  String.ofList ('"' :: s.toList.flatMap writtenChar ++ ['"'])

/-- A number; what is not finite is written as the word that the reader takes. -/
def writeNumber : Double → String
  | .nan => "NaN"
  | .infinite negative => if negative then "-Infinity" else "Infinity"
  | x => x.write

mutual

/-- The text of a value. -/
def write : Json → String
  | null => "null"
  | bool b => if b then "true" else "false"
  | integer n => toString n
  | number x => writeNumber x
  | text s => writeText s
  | list items => "[" ++ ",".intercalate (writeItems items) ++ "]"
  | object fields => "\x7b" ++ ",".intercalate (writeFields fields) ++ "\x7d"

/-- The texts of the items of a list. -/
def writeItems : List Json → List String
  | [] => []
  | item :: rest => write item :: writeItems rest

/-- The texts of the fields of an object. -/
def writeFields : List (String × Json) → List String
  | [] => []
  | (name, value) :: rest => (writeText name ++ ":" ++ write value) :: writeFields rest

end

end PodReach.Json
