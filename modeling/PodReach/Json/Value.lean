import PodReach.Number.Decimal
import PodReach.Text.Quoted

/-!
# JSON values

Whole numbers and other numbers are told apart by how they are written. The fields of an
object keep their order, and no two of them share a name.
-/

namespace PodReach

/-- A JSON value. -/
inductive Json
  | null
  | bool (value : Bool)
  | integer (value : Int)
  | number (value : Double)
  | text (value : String)
  | list (items : List Json)
  | object (fields : List (String × Json))
  deriving Inhabited

namespace Json

/-- Set a field of an object: a field of that name keeps its place and takes the new value. -/
def setField (name : String) (value : Json) : List (String × Json) → List (String × Json)
  | [] => [(name, value)]
  | (key, old) :: rest =>
    if key == name then (key, value) :: rest else (key, old) :: setField name value rest

/-- The value of a field, if the value is an object that has it. -/
def field? (name : String) : Json → Option Json
  | object fields => fields.lookup name
  | _ => none

/-- What stands under a name; null if there is nothing. -/
def part (j : Json) (name : String) : Json := (j.field? name).getD .null

/-- The items of a list; anything else has none. -/
def items : Json → List Json
  | list xs => xs
  | _ => []

/-- The fields of an object; anything else has none. -/
def fields : Json → List (String × Json)
  | object fs => fs
  | _ => []

/-- Whether a value counts as true: null, false, zero and everything empty do not. -/
def truthy : Json → Bool
  | null => false
  | bool b => b
  | integer n => n != 0
  | number x => !x.isZero
  | text s => !s.isEmpty
  | list items => !items.isEmpty
  | object fields => !fields.isEmpty

mutual

/-- The text of a value inside a list or an object, where texts are quoted. -/
def inner : Json → String
  | null => "None"
  | bool b => if b then "True" else "False"
  | integer n => toString n
  | number x => x.write
  | text s => Text.quoted s
  | list items => "[" ++ ", ".intercalate (innerItems items) ++ "]"
  | object fields => "\x7b" ++ ", ".intercalate (innerFields fields) ++ "\x7d"

/-- The texts of the items of a list. -/
def innerItems : List Json → List String
  | [] => []
  | item :: rest => inner item :: innerItems rest

/-- The texts of the fields of an object. -/
def innerFields : List (String × Json) → List String
  | [] => []
  | (name, value) :: rest => (Text.quoted name ++ ": " ++ inner value) :: innerFields rest

end

/-- The text shown for a value in a message: a text is shown as it is. -/
def shown : Json → String
  | text s => s
  | other => inner other

/-- A value as a text; null is no text. -/
def shown? : Json → Option String
  | null => none
  | v => some v.shown

end Json
end PodReach
