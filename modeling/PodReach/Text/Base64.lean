import PodReach.Text.Digit

/-!
# Base64

Groups of four characters stand for three bytes; equals signs fill up the last group and end the
text once it is full. Characters outside the alphabet are skipped. A last group that is neither
complete nor filled up is refused.
-/

namespace PodReach.Text

/-- The value of a character of the alphabet. -/
def base64Value? (c : Char) : Option Nat :=
  let n := c.toNat
  if 65 ≤ n && n ≤ 90 then some (n - 65)
  else if 97 ≤ n && n ≤ 122 then some (n - 71)
  else if isAsciiDigit c then some (n + 4)
  else if c == '+' then some 62
  else if c == '/' then some 63
  else none

/-- The bytes of a text from here on: `group` holds the values of the group that is being read,
and `filled` counts the equals signs right before this place. -/
def base64From (group : List Nat) (filled : Nat) : List Char → Option (List UInt8)
  | [] => if group.isEmpty then some [] else none
  | c :: rest =>
    if c == '=' then
      if 2 ≤ group.length && 4 ≤ group.length + filled + 1 then some []
      else base64From group (if 2 ≤ group.length then filled + 1 else filled) rest
    else
      match base64Value? c with
      | none => base64From group filled rest
      | some v =>
        let onward (byte : Nat) (group : List Nat) : Option (List UInt8) :=
          (base64From group 0 rest).map (UInt8.ofNat byte :: ·)
        match group with
        | [] => base64From [v] 0 rest
        | [a] => onward (a * 4 + v / 16) [a, v]
        | [a, b] => onward (b % 16 * 16 + v / 4) [a, b, v]
        | _ => onward (group.getLast?.getD 0 % 4 * 64 + v) []

/-- The bytes that a text stands for. -/
def base64? (cs : List Char) : Option (List UInt8) :=
  base64From [] 0 cs

example : base64? "aGk=".toList = some [104, 105] := by decide +kernel
example : base64? "a G\nkh".toList = some [104, 105, 33] := by decide +kernel
example : base64? "aGk".toList = none := by decide +kernel

end PodReach.Text
