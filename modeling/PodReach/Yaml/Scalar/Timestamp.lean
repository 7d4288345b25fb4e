import PodReach.Yaml.Cursor
import PodReach.Yaml.Value

/-!
# Timestamps

A timestamp is a date, alone or with a time after a `T` or blanks, and an offset after the time. A
scalar without a tag is one only if a date alone has two digits for its month and its day.
-/

namespace PodReach.Yaml

open PodReach.Text

/-- The written parts of a timestamp: its date, its time with the digits of a fraction, and the
minutes of its offset. -/
structure Timestamp where
  date : Date
  clock : Option (Nat × Nat × Nat × List Char × Option Int)
  deriving DecidableEq, Repr, Inhabited

/-- A number of between `least` and `most` digits at the start of a text. -/
def digitRun? (least most : Nat) (cs : List Char) : Option (Nat × List Char) :=
  let digits := (cs.takeWhile isAsciiDigit).take most
  if digits.length < least then none else some (decimalOf digits, cs.drop digits.length)

/-- The rest after one of some characters. -/
def afterChar? (p : Char → Bool) : List Char → Option (List Char)
  | c :: rest => if p c then some rest else none
  | [] => none

namespace Timestamp

/-- The offset at the end of a timestamp, in minutes; there may be none. -/
def offset? (cs : List Char) : Option (Option Int) :=
  match cs.dropWhile isSpace with
  | [] => if cs.isEmpty then some none else none
  | ['Z'] => some (some 0)
  | sign :: rest => do
    let factor : Int ← if sign == '+' then some 1 else if sign == '-' then some (-1) else none
    let (hours, rest) ← digitRun? 1 2 rest
    match rest with
    | [] => some (some (factor * (60 * hours)))
    | _ => do
      let (minutes, rest) ← digitRun? 2 2 (← afterChar? (· == ':') rest)
      if rest.isEmpty then some (some (factor * (60 * hours + minutes))) else none

/-- The parts of a timestamp. -/
def parts? (cs : List Char) : Option Timestamp := do
  let (year, cs) ← digitRun? 4 4 cs
  let (month, cs) ← digitRun? 1 2 (← afterChar? (· == '-') cs)
  let (day, rest) ← digitRun? 1 2 (← afterChar? (· == '-') cs)
  let date : Date := ⟨year, month, day⟩
  match rest with
  | [] => some ⟨date, none⟩
  | t :: _ =>
    let timeText ←
      if t == 'T' || t == 't' then some (rest.drop 1)
      else if isSpace t then some (rest.dropWhile isSpace) else none
    let (hour, cs) ← digitRun? 1 2 timeText
    let (minute, cs) ← digitRun? 2 2 (← afterChar? (· == ':') cs)
    let (second, cs) ← digitRun? 2 2 (← afterChar? (· == ':') cs)
    let (fraction, cs) := match cs with
      | '.' :: rest => (rest.takeWhile isAsciiDigit, rest.dropWhile isAsciiDigit)
      | cs => ([], cs)
    some ⟨date, some (hour, minute, second, fraction, ← offset? cs)⟩

/-- Whether a text without a tag is a timestamp. -/
def isPlain (cs : List Char) : Bool :=
  match parts? cs with
  | some parts => parts.clock.isSome || cs.length == 10
  | none => false

/-- The date or the moment that a timestamp stands for; it has to exist. -/
def value? (parts : Timestamp) : Option Yaml :=
  match parts.clock with
  | none => if parts.date.exists? then some (.date parts.date) else none
  | some (hour, minute, second, fraction, offset) =>
    let micros := decimalOf ((fraction ++ List.replicate 6 '0').take 6)
    let moment : Moment :=
      ⟨parts.date, ⟨hour, minute, second, micros⟩, offset.map (· * 60000000)⟩
    if moment.exists? then some (.moment moment) else none

end Timestamp
end PodReach.Yaml
