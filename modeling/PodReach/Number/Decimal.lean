import PodReach.Number.Double
import PodReach.Text.Blank
import PodReach.Text.Digit

/-!
# Decimal text of binary64 numbers

Reading takes padding, a sign, digits of any script with single underscores between them, an
optional fraction and exponent, and the words for infinity and no number. Writing gives the
fewest digits that read back as the same number, and of those the nearest; numbers from
`1e-4` up to below `1e16` are written without an exponent.
-/

namespace PodReach.Double

open PodReach.Text

/-- A decimal `digits * 10 ^ exponent`, rounded. Exponents far outside the range of binary64
decide the result without computing the power. -/
def ofDecimal (negative : Bool) (digits : Nat) (exponent : Int) : Double :=
  if digits = 0 then .zero negative
  else
    let size : Int := (digits.log2 : Int) * 301 / 1000 + exponent
    if size > 400 then .infinite negative
    else if size < -400 then .zero negative
    else
      let magnitude : Rat :=
        match exponent with
        | .ofNat n => ((digits * Nat.pow 10 n : Nat) : Rat)
        | .negSucc n => mkRat digits (Nat.pow 10 (n + 1))
      round (if negative then -magnitude else magnitude)

/-- Digits with single underscores between them: their values, and what follows. The flag says
whether a digit stands right before the list. -/
def takeDigits (afterDigit : Bool) : List Char → List Nat × List Char
  | [] => ([], [])
  | [c] =>
    match digitValue? c with
    | some d => ([d], [])
    | none => ([], [c])
  | c :: e :: more =>
    match digitValue? c with
    | some d =>
      let (ds, left) := takeDigits true (e :: more)
      (d :: ds, left)
    | none =>
      if afterDigit && c == '_' && (digitValue? e).isSome then takeDigits false (e :: more)
      else ([], c :: e :: more)

/-- The number that a list of digits denotes. -/
def ofDigits (digits : List Nat) : Nat :=
  digits.foldl (fun n d => 10 * n + d) 0

/-- The exponent part after the mantissa: zero if there is none. -/
def readExponent? : List Char → Option Int
  | [] => some 0
  | e :: rest =>
    if e == 'e' || e == 'E' then
      let (negative, unsigned) : Bool × List Char := match rest with
        | '-' :: more => (true, more)
        | '+' :: more => (false, more)
        | more => (false, more)
      match takeDigits false unsigned with
      | ([], _) => none
      | (ds, []) =>
        let n : Int := ofDigits ds
        some (if negative then -n else n)
      | _ => none
    else none

/-- An unsigned decimal: digits before and after the point, at least one of them. -/
def readUnsigned? (negative : Bool) (cs : List Char) : Option Double :=
  let (whole, afterWhole) := takeDigits false cs
  let (fraction, afterFraction) := match afterWhole with
    | '.' :: more => takeDigits false more
    | more => ([], more)
  if whole.isEmpty && fraction.isEmpty then none
  else do
    let exponent ← readExponent? afterFraction
    some (ofDecimal negative (ofDigits (whole ++ fraction)) (exponent - fraction.length))

/-- The number that a text denotes, if it is a decimal, an infinity or `nan`. -/
def read? (s : String) : Option Double :=
  let cs := trimBoth isNumeralPadding s.toList
  let (negative, unsigned) : Bool × List Char := match cs with
    | '-' :: more => (true, more)
    | '+' :: more => (false, more)
    | more => (false, more)
  let word := String.ofList (unsigned.map Char.toLower)
  if word == "inf" || word == "infinity" then some (.infinite negative)
  else if word == "nan" then some .nan
  else readUnsigned? negative unsigned

/-- The exponent `k` with `10 ^ k ≤ q < 10 ^ (k + 1)`, for a positive rational. -/
def floorLog10 (q : Rat) : Int :=
  let guess : Int := (floorLog2 q.num.natAbs q.den * 301) / 1000
  let atLeast (k : Int) : Bool := decide (tenPow k ≤ q)
  if atLeast (guess + 2) then guess + 2
  else if atLeast (guess + 1) then guess + 1
  else if atLeast guess then guess
  else guess - 1
where
  /-- A power of ten with any integer exponent. -/
  tenPow : Int → Rat
    | .ofNat n => (Nat.pow 10 n : Rat)
    | .negSucc n => mkRat 1 (Nat.pow 10 (n + 1))

/-- The nearer of the two neighbours of a positive number on the grid of `10 ^ exponent` that
reads back as the number, as a multiple of the grid; the even one of two equally near. -/
def onGrid? (q : Rat) (exponent : Int) : Option Nat :=
  let scaled := q / floorLog10.tenPow exponent
  let low := scaled.floor.toNat
  let readsBack (n : Nat) : Bool := decide (ofDecimal false n exponent = .finite q)
  let nearest := (nearestEven scaled).toNat
  if readsBack nearest then some nearest
  else if readsBack low then some low
  else if readsBack (low + 1) then some (low + 1)
  else none

/-- The shortest decimal that reads back: its digits as a number and their exponent. Seventeen
digits always suffice. -/
def shortest (q : Rat) : Nat × Int :=
  let top := floorLog10 q
  let grids := (List.range 17).map fun (i : Nat) => top - (i : Int)
  (grids.findSome? fun exponent => (onGrid? q exponent).map (·, exponent)).getD (0, 0)

/-- The digits of a number without trailing zeros, and how many zeros were dropped. -/
def trimZeros (digits : List Char) : List Char × Nat :=
  let kept := (digits.reverse.dropWhile (· == '0')).reverse
  (kept, digits.length - kept.length)

/-- A positive number in positional or exponent form. -/
def writePositive (q : Rat) : List Char :=
  let (n, exponent) := shortest q
  let (digits, dropped) := trimZeros (Nat.toDigits 10 n)
  let exponent := exponent + dropped
  -- the decimal point stands after this many digits
  let point : Int := digits.length + exponent
  if -4 < point && point ≤ 16 then
    if point ≤ 0 then
      ['0', '.'] ++ List.replicate (-point).toNat '0' ++ digits
    else if point ≥ digits.length then
      digits ++ List.replicate (point.toNat - digits.length) '0' ++ ['.', '0']
    else
      digits.take point.toNat ++ ['.'] ++ digits.drop point.toNat
  else
    let power := point - 1
    let mantissa := match digits with
      | [d] => [d]
      | d :: ds => d :: '.' :: ds
      | [] => []
    let powerDigits := Nat.toDigits 10 power.natAbs
    let padded := if powerDigits.length < 2 then '0' :: powerDigits else powerDigits
    mantissa ++ ['e', if power < 0 then '-' else '+'] ++ padded

/-- The text of a number. -/
def write : Double → String
  | .nan => "nan"
  | .infinite negative => if negative then "-inf" else "inf"
  | .minusZero => "-0.0"
  | .finite q =>
    if q = 0 then "0.0"
    else if q < 0 then String.ofList ('-' :: writePositive (-q))
    else String.ofList (writePositive q)

end PodReach.Double
