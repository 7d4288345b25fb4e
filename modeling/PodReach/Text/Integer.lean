import PodReach.Text.Blank
import PodReach.Text.Digit

/-!
# Reading integers

An integer numeral is padding, an optional sign, decimal digits of any script with single
underscores between them, and padding again. Numerals of more than 4300 digits are refused. In
base two, eight or sixteen a numeral may have the mark of its base in front and any number of
digits.
-/

namespace PodReach.Text

/-- The largest number of digits a numeral may have. -/
def maxNumeralDigits : Nat := 4300

/-- The digits of a numeral without sign and padding: none if it is empty or an underscore
does not stand between two digits. -/
def numeralDigits? : List Char → Option (List Nat)
  | [] => none
  | c :: rest => do
    let d ← digitValue? c
    match rest with
    | [] => some [d]
    | '_' :: more => (numeralDigits? more).map (d :: ·)
    | more => (numeralDigits? more).map (d :: ·)

/-- The number that a list of decimal digits denotes. -/
def ofDigits (digits : List Nat) : Nat :=
  digits.foldl (fun n d => 10 * n + d) 0

/-- The value of an unsigned numeral. -/
def readNatural? (cs : List Char) : Option Nat := do
  let digits ← numeralDigits? cs
  if digits.length ≤ maxNumeralDigits then some (ofDigits digits) else none

/-- The value of a numeral with an optional sign. -/
def readSigned? : List Char → Option Int
  | '-' :: cs => (readNatural? cs).map fun n => -(n : Int)
  | '+' :: cs => (readNatural? cs).map fun n => (n : Int)
  | cs => (readNatural? cs).map fun n => (n : Int)

/-- The value of an integer numeral, padding allowed around it. -/
def readInteger? (s : String) : Option Int :=
  readSigned? (trimBoth isNumeralPadding s.toList)

/-- The letter of a base that is a power of two. -/
def baseMark? (base : Nat) : Option Char :=
  ([(2, 'b'), (8, 'o'), (16, 'x')].find? fun (b, _) => b == base).map (·.2)

/-- The value of a digit in a base: a decimal digit of any script, or a letter. -/
def digitIn? (base : Nat) (c : Char) : Option Nat :=
  ((digitValue? c).or (letterDigit? c)).filter (· < base)

/-- The digits of a numeral in a base. -/
def digitsIn? (base : Nat) : List Char → Option (List Nat)
  | [] => none
  | c :: rest => do
    let d ← digitIn? base c
    match rest with
    | [] => some [d]
    | '_' :: more => (digitsIn? base more).map (d :: ·)
    | more => (digitsIn? base more).map (d :: ·)

/-- What follows the mark of a base, after which an underscore may stand. -/
def afterMark (base : Nat) (cs : List Char) : List Char :=
  match cs with
  | zero :: mark :: rest =>
    if digitValue? zero == some 0 && some mark.toLower == baseMark? base then
      if rest.head? == some '_' then rest.drop 1 else rest
    else cs
  | _ => cs

/-- The value of a numeral in base two, eight or sixteen. -/
def readInBase? (base : Nat) (s : String) : Option Int :=
  let value (cs : List Char) : Option Nat :=
    (digitsIn? base (afterMark base cs)).map (·.foldl (fun n d => base * n + d) 0)
  match trimBoth isNumeralPadding s.toList with
  | '-' :: cs => (value cs).map fun n => -(n : Int)
  | '+' :: cs => (value cs).map fun n => (n : Int)
  | cs => (value cs).map fun n => (n : Int)

end PodReach.Text
