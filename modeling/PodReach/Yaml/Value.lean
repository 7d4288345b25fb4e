import PodReach.Calendar.Moment
import PodReach.Json.Writer

/-!
# YAML values

What a YAML document denotes. Keys of a mapping are values themselves; a mapping keeps the
order in which its keys first appear. A collection may hold itself; where it is met again inside
itself only its kind is kept.
-/

namespace PodReach

/-- A YAML value. -/
inductive Yaml
  | null
  | bool (value : Bool)
  | integer (value : Int)
  | number (value : Double)
  | text (value : String)
  | bytes (value : List UInt8)
  | date (value : Date)
  | moment (value : Moment)
  | list (items : List Yaml)
  /-- An entry of an ordered mapping, which is a list of them. -/
  | pair (key value : Yaml)
  | set (items : List Yaml)
  | map (entries : List (Yaml × Yaml))
  /-- A list or a mapping inside itself. -/
  | loop (isMap : Bool)
  deriving Inhabited

namespace Yaml

mutual

/-- Whether two values are the same; as keys, `1`, `1.0` and `true` are told apart only by the
number they stand for. -/
def same : Yaml → Yaml → Bool
  | null, null => true
  | text a, text b => a == b
  | bytes a, bytes b => a == b
  | date a, date b => a == b
  | moment a, moment b => a.same b
  | list xs, list ys | set xs, set ys => sameItems xs ys
  | pair k v, pair l w => same k l && same v w
  | map xs, map ys => sameEntries xs ys
  | bool a, bool b => a == b
  | bool a, integer n | integer n, bool a => (if a then 1 else 0) == n
  | bool a, number x | number x, bool a => x.value? == some (if a then 1 else 0)
  | integer m, integer n => m == n
  | integer n, number x | number x, integer n => x.value? == some (n : Rat)
  | number x, number y => x.eq y
  | _, _ => false

/-- Lists of the same values in the same order. -/
def sameItems : List Yaml → List Yaml → Bool
  | [], [] => true
  | x :: xs, y :: ys => same x y && sameItems xs ys
  | _, _ => false

/-- Mappings with the same entries in the same order. -/
def sameEntries : List (Yaml × Yaml) → List (Yaml × Yaml) → Bool
  | [], [] => true
  | (k, v) :: xs, (l, w) :: ys => same k l && same v w && sameEntries xs ys
  | _, _ => false

end

/-- Set an entry of a mapping, whose values may be of any type: an entry with the same key keeps
its place. -/
def setEntry {α : Type} (key : Yaml) (value : α) : List (Yaml × α) → List (Yaml × α)
  | [] => [(key, value)]
  | (k, old) :: rest =>
    if same k key then (k, value) :: rest else (k, old) :: setEntry key value rest

/-- The value under a text key, if there is one. -/
def lookup? (key : String) (entries : List (Yaml × Yaml)) : Option Yaml :=
  (entries.find? fun (k, _) => match k with | text s => s == key | _ => false).map (·.2)

/-- Whether a value counts as true: null, false, zero and everything empty do not. -/
def truthy : Yaml → Bool
  | null => false
  | bool b => b
  | integer n => n != 0
  | number x => !x.isZero
  | text s => !s.isEmpty
  | bytes b => !b.isEmpty
  | date _ | moment _ | pair _ _ | loop _ => true
  | list items | set items => !items.isEmpty
  | map entries => !entries.isEmpty

/-- A value, or another one in place of a value that counts as false. -/
def orElse (value other : Yaml) : Yaml :=
  if value.truthy then value else other

/-- A text as a value; null if there is none. -/
def ofText? : Option String → Yaml
  | some s => text s
  | none => null

/-- Whether a value can be a key: collections cannot. -/
def hashable : Yaml → Bool
  | list _ | set _ | map _ | loop _ => false
  | pair key value => hashable key && hashable value
  | _ => true

/-- A byte inside quotes. -/
def quotedByte (quote : Char) (b : UInt8) : List Char :=
  let c := Char.ofNat b.toNat
  if c == quote || c == '\\' then ['\\', c]
  else if c == '\n' then ['\\', 'n']
  else if c == '\r' then ['\\', 'r']
  else if c == '\t' then ['\\', 't']
  else if 0x20 ≤ b.toNat && b.toNat < 0x7F then [c]
  else '\\' :: 'x' :: Text.hexDigits 2 b.toNat

/-- Bytes between quotes, with a mark in front. -/
def quotedBytes (bytes : List UInt8) : String :=
  let quote := Text.quoteFor (bytes.map fun b => Char.ofNat b.toNat)
  String.ofList ('b' :: quote :: bytes.flatMap (quotedByte quote) ++ [quote])

/-- Numbers between parentheses, after a name. -/
def called (name : String) (arguments : List String) : String :=
  name ++ "(" ++ ", ".intercalate arguments ++ ")"

/-- The numbers of a date inside a list or a mapping. -/
def dateParts (d : Date) : List String :=
  [d.year, d.month, d.day].map toString

/-- The offset of a moment inside a list or a mapping: whole days, seconds of a day and
microseconds, of which those that are zero are left out. -/
def innerOffset (offset : Int) : String :=
  if offset == 0 then "datetime.timezone.utc"
  else
    let days := offset.fdiv Moment.day
    let rest := offset - days * Moment.day
    let parts := [("days", days), ("seconds", rest / 1000000), ("microseconds", rest % 1000000)]
    called "datetime.timezone" [called "datetime.timedelta"
      ((parts.filter (·.2 != 0)).map fun (name, n) => s!"{name}={n}")]

/-- A moment inside a list or a mapping; zero seconds at its end are left out. -/
def innerMoment (m : Moment) : String :=
  let seconds :=
    if m.time.micros != 0 then [m.time.second, m.time.micros]
    else if m.time.second != 0 then [m.time.second]
    else []
  called "datetime.datetime" (dateParts m.date
    ++ ([m.time.hour, m.time.minute] ++ seconds).map toString
    ++ (m.offset.map fun o => "tzinfo=" ++ innerOffset o).toList)

mutual

/-- The text of a value inside a list or a mapping, where texts are quoted. -/
def inner : Yaml → String
  | null => "None"
  | bool b => if b then "True" else "False"
  | integer n => toString n
  | number x => x.write
  | text s => Text.quoted s
  | bytes b => quotedBytes b
  | date d => called "datetime.date" (dateParts d)
  | moment m => innerMoment m
  | list items => "[" ++ ", ".intercalate (innerItems items) ++ "]"
  | pair key value => "(" ++ inner key ++ ", " ++ inner value ++ ")"
  | set items =>
    if items.isEmpty then "set()"
    else "\x7b" ++ ", ".intercalate (innerItems items) ++ "\x7d"
  | map entries => "\x7b" ++ ", ".intercalate (innerEntries entries) ++ "\x7d"
  | loop isMap => if isMap then "\x7b...\x7d" else "[...]"

/-- The texts of the items of a list. -/
def innerItems : List Yaml → List String
  | [] => []
  | item :: rest => inner item :: innerItems rest

/-- The texts of the entries of a mapping. -/
def innerEntries : List (Yaml × Yaml) → List String
  | [] => []
  | (key, value) :: rest => (inner key ++ ": " ++ inner value) :: innerEntries rest

end

/-- The text shown for a value in a message: texts, dates and moments are shown as they are. -/
def shown : Yaml → String
  | text s => s
  | date d => d.text
  | moment m => m.text
  | other => inner other

/-- The field name for a key. -/
def keyText : Yaml → String
  | null => "null"
  | bool b => if b then "true" else "false"
  | number x => Json.writeNumber x
  | other => shown other

mutual

/-- The value as JSON. Keys that are not texts are written as their JSON text, and values that
JSON does not know as the texts that are shown for them. -/
def toJson : Yaml → Json
  | null => .null
  | bool b => .bool b
  | integer n => .integer n
  | number x => .number x
  | text s => .text s
  | list items => .list (itemsToJson items)
  | pair key value => .list [toJson key, toJson value]
  | map entries => .object (entriesToJson entries)
  | other => .text other.shown

/-- The items of a list as JSON. -/
def itemsToJson : List Yaml → List Json
  | [] => []
  | item :: rest => toJson item :: itemsToJson rest

/-- The entries of a mapping as fields. -/
def entriesToJson : List (Yaml × Yaml) → List (String × Json)
  | [] => []
  | (key, value) :: rest => (keyText key, toJson value) :: entriesToJson rest

end

/-- A JSON value as YAML. -/
def ofJson : Json → Yaml
  | .null => null
  | .bool b => bool b
  | .integer n => integer n
  | .number x => number x
  | .text s => text s
  | .list items => list (items.attach.map fun ⟨item, _⟩ => ofJson item)
  | .object fields => map (fields.attach.map fun ⟨(name, value), _⟩ => (text name, ofJson value))
termination_by j => sizeOf j
decreasing_by
  · simp_wf
    rename_i h
    have := List.sizeOf_lt_of_mem h
    omega
  · simp_wf
    rename_i h
    have := List.sizeOf_lt_of_mem h
    simp at this
    omega

example : inner (.list [.date ⟨2024, 1, 2⟩, .bytes [104, 105, 0]])
    = "[datetime.date(2024, 1, 2), b'hi\\x00']" := by decide +kernel
example : inner (.moment ⟨⟨2024, 1, 2⟩, ⟨1, 2, 0, 0⟩, some (-18000000000)⟩)
    = "datetime.datetime(2024, 1, 2, 1, 2, tzinfo=datetime.timezone("
      ++ "datetime.timedelta(days=-1, seconds=68400)))" := by decide +kernel

end Yaml
end PodReach
