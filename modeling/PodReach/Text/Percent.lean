import PodReach.Text.Digit
import PodReach.Text.Utf8

/-!
# Percent encoding

How a text becomes part of a path: letters, digits and four marks stand for themselves, every
other byte of its UTF-8 form is written as a percent sign with two hexadecimal digits. Reading
leaves a percent sign alone that no two digits follow, and in a query a plus sign is a blank.
-/

namespace PodReach.Text

/-- The bytes that stand for themselves in a path. -/
def isUnreserved (c : Char) : Bool :=
  c.isAlphanum || c == '-' || c == '.' || c == '_' || c == '~'

/-- One byte of a path. -/
def percentByte (b : UInt8) : List Char :=
  let c := Char.ofNat b.toNat
  if isUnreserved c then [c] else '%' :: (hexDigits 2 b.toNat).map Char.toUpper

/-- A text as one part of a path. -/
def percentEncode (s : String) : String :=
  String.ofList (s.toUTF8.toList.flatMap percentByte)

/-- The bytes that a text stands for. -/
def percentBytes : List Char → List UInt8
  | [] => []
  | '%' :: a :: b :: rest =>
    match (letterDigit? a).filter (· < 16), (letterDigit? b).filter (· < 16) with
    | some high, some low => UInt8.ofNat (16 * high + low) :: percentBytes rest
    | _, _ => (0x25 : UInt8) :: percentBytes (a :: b :: rest)
  | c :: rest => (String.singleton c).toUTF8.toList ++ percentBytes rest

/-- The text of one side of a pair in a query. -/
def readQueryText (cs : List Char) : String :=
  String.ofList (decodeUtf8 (percentBytes (cs.map fun c => if c == '+' then ' ' else c)))

example : readQueryText "a%20b+%e4%bd%a0%zz".toList = "a b 你%zz" := by decide +kernel

end PodReach.Text
