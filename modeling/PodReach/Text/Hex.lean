import PodReach.Text.Digit

/-!
# Bytes as hexadecimal text
-/

namespace PodReach.Text

/-- Two lower-case hexadecimal digits for every byte. -/
def hexOfBytes (bytes : List UInt8) : String :=
  String.ofList (bytes.flatMap fun b => hexDigits 2 b.toNat)

/-- The bytes of a text of hexadecimal digit pairs; none on an odd length or another
character. -/
def bytesOfHex? : List Char → Option (List UInt8)
  | [] => some []
  | [_] => none
  | a :: b :: rest => do
    let high ← letterDigit? a
    let low ← letterDigit? b
    if high < 16 && low < 16 then
      (bytesOfHex? rest).map (UInt8.ofNat (16 * high + low) :: ·)
    else none

end PodReach.Text
