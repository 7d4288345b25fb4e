import PodReach.Text.Blank
import PodReach.Yaml.Scalar.Timestamp

/-!
# The kinds of nodes

A plain scalar has the kind that its form gives it: version 1.1 of the format knows numbers in
four bases and in base sixty, six words for each truth value, and dates. A tag gives a kind
explicitly.
-/

namespace PodReach.Yaml

open PodReach.Text

/-- The kinds of nodes. -/
inductive Kind
  | null
  | bool
  | integer
  | number
  | timestamp
  | binary
  | text
  | sequence
  | mapping
  | set
  /-- A sequence of mappings with one entry each. -/
  | pairs
  /-- The key under which a mapping takes over entries of others. -/
  | merge
  /-- The key of a default value: what a mapping stands for where a scalar is asked for. -/
  | default
  /-- A tag that nobody gave a meaning. -/
  | unknown
  deriving DecidableEq, Repr, Inhabited

/-- The words for true. -/
def trueWords : List String := ["yes", "Yes", "YES", "true", "True", "TRUE", "on", "On", "ON"]

/-- The words for false. -/
def falseWords : List String := ["no", "No", "NO", "false", "False", "FALSE", "off", "Off", "OFF"]

/-- The words for null; an empty scalar is one of them. -/
def nullWords : List String := ["", "~", "null", "Null", "NULL"]

/-- Whether a run of characters is not empty and all of a class. -/
def someAll (p : Char → Bool) (cs : List Char) : Bool :=
  !cs.isEmpty && cs.all p

/-- A digit or an underscore, which separates digits. -/
def isSpacedDigit (c : Char) : Bool :=
  isAsciiDigit c || c == '_'

/-- A hexadecimal digit or an underscore. -/
def isSpacedHex (c : Char) : Bool :=
  c == '_' || (letterDigit? c).any (· < 16)

/-- An octal digit or an underscore. -/
def isSpacedOctal (c : Char) : Bool :=
  c == '_' || (letterDigit? c).any (· < 8)

/-- The rest after a sign, if there is one. -/
def unsigned : List Char → List Char
  | '+' :: rest => rest
  | '-' :: rest => rest
  | cs => cs

/-- A part of a number in base sixty after its first one. -/
def isSixtieth : List Char → Bool
  | [a] => isAsciiDigit a
  | [a, b] => isAsciiDigit a && a.toNat < 54 && isAsciiDigit b
  | _ => false

/-- Whether an unsigned text is a whole number. -/
def isWhole (cs : List Char) : Bool :=
  match cs with
  | ['0'] => true
  | '0' :: 'b' :: bits => someAll (fun c => c == '0' || c == '1' || c == '_') bits
  | '0' :: 'x' :: digits => someAll isSpacedHex digits
  | '0' :: digits => someAll isSpacedOctal digits
  | c :: _ =>
    isAsciiDigit c &&
      match splitOnChar ':' cs with
      | first :: parts => first.all isSpacedDigit && parts.all isSixtieth
      | [] => false
  | [] => false

/-- Whether a text is the exponent of a number, or empty. The sign of an exponent has to be
written. -/
def isExponent : List Char → Bool
  | [] => true
  | e :: sign :: digits =>
    (e == 'e' || e == 'E') && (sign == '+' || sign == '-') && someAll isAsciiDigit digits
  | _ => false

/-- Whether a text is a fraction: digits after a point, with an exponent perhaps. -/
def isFraction (cs : List Char) : Bool :=
  isExponent (cs.dropWhile isSpacedDigit)

/-- Whether a text is a number with a point. -/
def isPointed (cs : List Char) : Bool :=
  match cs with
  | '.' :: c :: rest =>
    (isAsciiDigit c && isFraction rest) || [".nan", ".NaN", ".NAN"].contains (String.ofList cs)
  | _ => false

/-- Whether an unsigned text is a number with a digit in front of its point, or infinity. -/
def isSignedPointed (cs : List Char) : Bool :=
  if [".inf", ".Inf", ".INF"].contains (String.ofList cs) then true
  else
    match cutAtFirst '.' cs with
    | none => false
    | some (whole, fraction) =>
      startsWith isAsciiDigit whole &&
        match splitOnChar ':' whole with
        | [digits] => digits.all isSpacedDigit && isFraction fraction
        | first :: parts =>
          first.all isSpacedDigit && parts.all isSixtieth && fraction.all isSpacedDigit
        | [] => false

namespace Kind

/-- The indicators that stand for nothing by themselves. -/
def bareIndicators : List String := ["!", "&", "*"]

/-- The kind of a text that does not end in a newline. -/
def ofLine (s : String) : Kind :=
  let cs := s.toList
  if nullWords.contains s then .null
  else if trueWords.contains s || falseWords.contains s then .bool
  else if s == "<<" then .merge
  else if s == "=" then .default
  else if bareIndicators.contains s then .unknown
  else if isWhole (unsigned cs) then .integer
  else if isPointed cs || isSignedPointed (unsigned cs) then .number
  else if Timestamp.isPlain cs then .timestamp
  else .text

/-- The kind of a plain scalar. A newline at its end does not count. -/
def ofPlain (s : String) : Kind :=
  match s.toList.reverse with
  | '\n' :: front => if front.isEmpty then .text else ofLine (String.ofList front.reverse)
  | _ => ofLine s

/-- The kinds that a tag can name. -/
def tagNames : List (String × Kind) := [
  ("null", .null), ("bool", .bool), ("int", .integer), ("float", .number),
  ("timestamp", .timestamp), ("binary", .binary), ("str", .text), ("seq", .sequence),
  ("map", .mapping), ("set", .set), ("omap", .pairs), ("pairs", .pairs), ("merge", .merge),
  ("value", .default)]

/-- What the tags of the format itself start with. -/
def tagStart : String := "tag:yaml.org,2002:"

/-- The kind that a tag names. -/
def ofTag (tag : String) : Kind :=
  match tagNames.find? fun (name, _) => tagStart ++ name == tag with
  | some (_, kind) => kind
  | none => .unknown

end Kind
end PodReach.Yaml
