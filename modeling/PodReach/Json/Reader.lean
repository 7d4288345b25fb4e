import PodReach.Json.Value

/-!
# Reading JSON

The grammar is that of RFC 8259 with three additions: the words `NaN`, `Infinity` and
`-Infinity`. Control characters inside texts and a byte order mark are refused, as are whole
numbers of more digits than a numeral may have. Of two fields with one name the last wins.

The reader takes a bound on its depth of recursion from the length of the input; every step
consumes a character, so the bound is never what stops it.
-/

namespace PodReach.Json

open PodReach.Text

/-- Drop the white characters of the grammar. -/
def skipSpace : List Char → List Char
  | c :: rest =>
    if c == ' ' || c == '\n' || c == '\r' || c == '\t' then skipSpace rest else c :: rest
  | [] => []

/-- Four hexadecimal digits. -/
def readHex4? : List Char → Option (Nat × List Char)
  | a :: b :: c :: d :: rest => do
    let digit (x : Char) : Option Nat :=
      (letterDigit? x).bind fun n => if n < 16 then some n else none
    let a ← digit a
    let b ← digit b
    let c ← digit c
    let d ← digit d
    some (((a * 16 + b) * 16 + c) * 16 + d, rest)
  | _ => none

/-- The character of an escape by code unit. A pair of surrogates is one character; a surrogate
without its other half stands by itself. -/
def readUnit? (cs : List Char) : Option (Char × List Char) := do
  let (unit, rest) ← readHex4? cs
  let alone := charOfUnit unit
  if 0xD800 ≤ unit && unit < 0xDC00 then
    match rest with
    | '\\' :: 'u' :: more =>
      match readHex4? more with
      | some (low, left) =>
        if 0xDC00 ≤ low && low < 0xE000 then
          some (Char.ofNat (0x10000 + (unit - 0xD800) * 0x400 + (low - 0xDC00)), left)
        else some (alone, rest)
      | none => some (alone, rest)
    | _ => some (alone, rest)
  else some (alone, rest)

/-- The rest of a text after its opening quote, and what follows the closing one. -/
def readText? : Nat → List Char → Option (List Char × List Char)
  | 0, _ => none
  | fuel + 1, cs =>
    match cs with
    | [] => none
    | '"' :: rest => some ([], rest)
    | '\\' :: 'u' :: rest => do
      let (c, rest) ← readUnit? rest
      let (more, left) ← readText? fuel rest
      some (c :: more, left)
    | '\\' :: e :: rest => do
      let c ← match e with
        | '"' => some '"'
        | '\\' => some '\\'
        | '/' => some '/'
        | 'b' => some '\x08'
        | 'f' => some '\x0c'
        | 'n' => some '\n'
        | 'r' => some '\r'
        | 't' => some '\t'
        | _ => none
      let (more, left) ← readText? fuel rest
      some (c :: more, left)
    | c :: rest =>
      if c.toNat < 0x20 then none
      else do
        let (more, left) ← readText? fuel rest
        some (c :: more, left)

/-- A number after its sign. A whole number has neither fraction nor exponent. -/
def readNumber? (negative : Bool) (cs : List Char) : Option (Json × List Char) :=
  let whole := cs.takeWhile isAsciiDigit
  let afterWhole := cs.dropWhile isAsciiDigit
  if whole.isEmpty then none
  else
    -- a leading zero stands alone
    let (whole, afterWhole) :=
      if whole.head? == some '0' then (['0'], cs.drop 1) else (whole, afterWhole)
    let (fraction, afterFraction) := match afterWhole with
      | '.' :: more =>
        let digits := more.takeWhile isAsciiDigit
        if digits.isEmpty then (([] : List Char), afterWhole)
        else (digits, more.dropWhile isAsciiDigit)
      | _ => ([], afterWhole)
    let (exponent, left) : Option Int × List Char := match afterFraction with
      | e :: more =>
        if e == 'e' || e == 'E' then
          let (minus, unsigned) : Bool × List Char := match more with
            | '-' :: r => (true, r)
            | '+' :: r => (false, r)
            | r => (false, r)
          let digits := unsigned.takeWhile isAsciiDigit
          if digits.isEmpty then (none, afterFraction)
          else
            let n : Int := decimalOf digits
            (some (if minus then -n else n), unsigned.dropWhile isAsciiDigit)
        else (none, afterFraction)
      | [] => (none, [])
    if fraction.isEmpty && exponent.isNone then
      if whole.length ≤ 4300 then
        let n : Int := decimalOf whole
        some (.integer (if negative then -n else n), left)
      else none
    else
      some (.number (Double.ofDecimal negative (decimalOf (whole ++ fraction))
        (exponent.getD 0 - fraction.length)), left)

/-- The rest of the input after a word, if it begins with it. -/
def afterWord? (word : String) (cs : List Char) : Option (List Char) :=
  if word.toList.isPrefixOf cs then some (cs.drop word.length) else none

mutual

/-- A value that starts at the first character. -/
def readValue? : Nat → List Char → Option (Json × List Char)
  | 0, _ => none
  | fuel + 1, cs =>
    match cs with
    | [] => none
    | '"' :: rest => do
      let (s, left) ← readText? (rest.length + 1) rest
      some (.text (String.ofList s), left)
    | '[' :: rest =>
      match skipSpace rest with
      | ']' :: left => some (.list [], left)
      | start => do
        let (items, left) ← readItems? fuel start
        some (.list items, left)
    | '\x7b' :: rest =>
      match skipSpace rest with
      | '\x7d' :: left => some (.object [], left)
      | start => do
        let (fields, left) ← readFields? fuel [] start
        some (.object fields, left)
    | 'n' :: _ => (afterWord? "null" cs).map (.null, ·)
    | 't' :: _ => (afterWord? "true" cs).map (.bool true, ·)
    | 'f' :: _ => (afterWord? "false" cs).map (.bool false, ·)
    | 'N' :: _ => (afterWord? "NaN" cs).map (.number .nan, ·)
    | 'I' :: _ => (afterWord? "Infinity" cs).map (.number (.infinite false), ·)
    | '-' :: 'I' :: _ => (afterWord? "-Infinity" cs).map (.number (.infinite true), ·)
    | '-' :: rest => readNumber? true rest
    | _ => readNumber? false cs

/-- The items of a list up to its closing bracket. -/
def readItems? : Nat → List Char → Option (List Json × List Char)
  | 0, _ => none
  | fuel + 1, cs => do
    let (item, rest) ← readValue? fuel cs
    match skipSpace rest with
    | ']' :: left => some ([item], left)
    | ',' :: more =>
      let (items, left) ← readItems? fuel (skipSpace more)
      some (item :: items, left)
    | _ => none

/-- The fields of an object up to its closing brace; the fields read so far are given. -/
def readFields? : Nat → List (String × Json) → List Char → Option (List (String × Json) × List Char)
  | 0, _, _ => none
  | fuel + 1, fields, cs =>
    match cs with
    | '"' :: rest => do
      let (name, rest) ← readText? (rest.length + 1) rest
      match skipSpace rest with
      | ':' :: rest =>
        let (value, rest) ← readValue? fuel (skipSpace rest)
        let fields := setField (String.ofList name) value fields
        match skipSpace rest with
        | '\x7d' :: left => some (fields, left)
        | ',' :: more => readFields? fuel fields (skipSpace more)
        | _ => none
      | _ => none
    | _ => none

end

/-- The value that a text denotes, if it is JSON. -/
def read? (s : String) : Option Json := do
  let cs := s.toList
  let (value, rest) ← readValue? (2 * cs.length + 2) (skipSpace cs)
  if (skipSpace rest).isEmpty then some value else none

end PodReach.Json
