import PodReach.Number.Decimal
import PodReach.Text.Base64
import PodReach.Text.Integer
import PodReach.Yaml.Kind

/-!
# Reading scalars

The value of a scalar of a kind. Underscores inside numbers do not count. A scalar whose kind
comes from its tag may have another form than those of that kind; what then goes wrong depends on
the kind.
-/

namespace PodReach.Yaml

open PodReach.Text

/-- The value in base sixty of parts, the highest first. -/
def inSixty (parts : List Int) : Int :=
  parts.foldl (fun n part => 60 * n + part) 0

/-- Apply the sign in front of a text to a value of the rest; a text without characters has no
place for a sign. -/
def signed {α : Type} (negate : α → α) (value : List Char → Except Mistake α) :
    List Char → Except Mistake α
  | [] => .error .noSuchPlace
  | '-' :: rest => (value rest).map negate
  | '+' :: rest => value rest
  | cs => value cs

/-- A value that has to be there. -/
def valid {α : Type} : Option α → Except Mistake α
  | some a => .ok a
  | none => .error .badValue

/-- The value of an unsigned whole number: binary after `0b`, hexadecimal after `0x`, octal after
any other zero, in base sixty with colons. -/
def wholeValue (cs : List Char) : Except Mistake Int :=
  match cs with
  | [] => .error .noSuchPlace
  | ['0'] => .ok 0
  | '0' :: 'b' :: bits => valid (readInBase? 2 (String.ofList bits))
  | '0' :: 'x' :: digits => valid (readInBase? 16 (String.ofList digits))
  | '0' :: _ => valid (readInBase? 8 (String.ofList cs))
  | _ =>
    if cs.contains ':' then
      valid (((splitOnChar ':' cs).mapM fun part => readInteger? (String.ofList part)).map inSixty)
    else valid (readInteger? (String.ofList cs))

/-- The value of an unsigned number with a point, in lower case. -/
def pointedValue (cs : List Char) : Except Mistake Double :=
  if cs == ".inf".toList then .ok (.infinite false)
  else if cs == ".nan".toList then .ok .nan
  else if cs.contains ':' then
    let parts := (splitOnChar ':' cs).mapM fun part => Double.read? (String.ofList part)
    valid (parts.map fun parts =>
      (parts.reverse.foldl
        (fun (sum, base) part =>
          (Double.add sum (Double.mul part base), Double.mul base (.ofInt 60)))
        (Double.ofInt 0, Double.ofInt 1)).1)
  else valid (Double.read? (String.ofList cs))

/-- The truth value of a word, in any case. -/
def boolValue (s : String) : Except Mistake Bool :=
  let word := s.map Char.toLower
  if trueWords.contains word then .ok true
  else if falseWords.contains word then .ok false
  else .error .noSuchKey

/-- The value of a timestamp. A newline at its end does not count. -/
def timestampValue (s : String) : Except Mistake Yaml :=
  let cs := match s.toList.reverse with
    | '\n' :: front => front.reverse
    | _ => s.toList
  match Timestamp.parts? cs with
  | some parts => valid parts.value?
  | none => .error .noSuchPart

/-- The value of a scalar of a kind. -/
def Kind.read (kind : Kind) (s : String) : Except Defect Yaml :=
  let digits := s.toList.filter (· != '_')
  let orMistake {α : Type} (make : α → Yaml) (value : Except Mistake α) : Except Defect Yaml :=
    match value with
    | .ok a => .ok (make a)
    | .error mistake => .error (.mistake mistake)
  match kind with
  | .null => .ok .null
  | .bool => orMistake .bool (boolValue s)
  | .integer => orMistake .integer (signed (- ·) wholeValue digits)
  | .number => orMistake .number (signed Double.neg pointedValue (digits.map Char.toLower))
  | .timestamp => orMistake id (timestampValue s)
  | .binary =>
    if s.toList.all (·.toNat < 128) then
      match base64? s.toList with
      | some decoded => .ok (.bytes decoded)
      | none => .error .malformed
    else .error .malformed
  | .text => .ok (.text s)
  | .sequence | .mapping | .set | .pairs | .merge | .default | .unknown => .error .malformed

end PodReach.Yaml
