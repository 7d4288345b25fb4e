import PodReach.Calendar.Moment

/-!
# Reading ISO 8601

A date is written by month and day or by week and day of the week, with or without dashes; any
character may separate it from the time. The time is written with or without colons, as far as
one likes, with a fraction after a point or a comma; an offset follows in the same form. A reading
of a clock may be cut off by the offset after any single character.
-/

namespace PodReach.Iso

open PodReach.Text

/-- A number of exactly `width` digits, and what follows. -/
def digits? (width : Nat) (cs : List Char) : Option (Nat × List Char) :=
  let digits := cs.take width
  if digits.length == width && digits.all isAsciiDigit then some (decimalOf digits, cs.drop width)
  else none

/-- The rest after an expected character. -/
def expect? (c : Char) : List Char → Option (List Char)
  | d :: rest => if d == c then some rest else none
  | [] => none

/-- The date that a text denotes. Without a day a week stands for its Monday. -/
def date? (cs : List Char) : Option Date := do
  let (year, rest) ← digits? 4 cs
  let dashed := rest.head? == some '-'
  let dash (cs : List Char) : Option (List Char) := if dashed then expect? '-' cs else some cs
  let rest ← dash rest
  match rest with
  | 'W' :: rest =>
    let (week, rest) ← digits? 2 rest
    if rest.isEmpty then Date.ofWeek? year week 1
    else
      let (day, _) ← digits? 1 (← dash rest)
      Date.ofWeek? year week day
  | _ =>
    let (month, rest) ← digits? 2 rest
    let (day, rest) ← digits? 2 (← dash rest)
    if rest.isEmpty then some ⟨year, month, day⟩ else none

/-- The number of digits in front of the end of a date without dashes, from its eighth character
on; an odd number of them includes the day of the week. -/
def undashedWeekEnd (cs : List Char) : Nat :=
  let ending := 7 + ((cs.drop 7).takeWhile isAsciiDigit).length
  if ending < 9 then ending else if ending % 2 == 0 then 7 else 8

/-- Where the date in front of a text ends. After a week a dash may separate the time or the day
of the week; two digits after it are a time. -/
def dateEnd (cs : List Char) : Nat :=
  let at? (i : Nat) : Option Char := cs[i]?
  if cs.length == 7 then 7
  else if at? 4 == some '-' then
    if at? 5 == some 'W' then
      if at? 8 == some '-' then if (at? 10).any isAsciiDigit then 8 else 10
      else 8
    else 10
  else if at? 4 == some 'W' then undashedWeekEnd cs
  else 8

/-- How the parts of a clock reading end: with the reading, with something that does not belong to
it, or with the text of a fraction. -/
inductive Ending
  | ended
  | leftover
  | fraction (text : List Char)
  deriving DecidableEq, Repr

/-- Parts of two digits, at most `left` of them, with colons between them or without; whether there
are colons shows after the first part. -/
def parts? : (left : Nat) → (colons : Option Bool) → List Char → Option (List Nat × Ending)
  | 0, _, cs => some ([], .fraction cs)
  | left + 1, colons, cs => do
    let (part, rest) ← digits? 2 cs
    match rest with
    | [] => some ([part], .ended)
    | [_] => some ([part], .leftover)
    | c :: more =>
      let colons := colons.getD (c == ':')
      let onward (cs : List Char) : Option (List Nat × Ending) := do
        let (parts, ending) ← parts? left (some colons) cs
        some (part :: parts, ending)
      if colons && c == ':' then onward more
      else if c == '.' || c == ',' then some ([part], .fraction more)
      else if colons then none
      else onward (c :: more)

/-- The microseconds of a fraction: up to six digits, further ones dropped. -/
def fractionMicros? (cs : List Char) : Option (Nat × List Char) :=
  let digits := cs.take 6
  if digits.all isAsciiDigit then
    some (decimalOf (digits ++ List.replicate (6 - digits.length) '0'),
      (cs.drop 6).dropWhile isAsciiDigit)
  else none

/-- A clock reading, and whether nothing else is there. -/
def clock? (cs : List Char) : Option (TimeOfDay × Bool) := do
  let (parts, ending) ← parts? 3 none cs
  let part (i : Nat) : Nat := parts[i]?.getD 0
  let (micros, clean) ← match ending with
    | .ended => some (0, true)
    | .leftover => some (0, false)
    | .fraction text => do
      let (micros, rest) ← fractionMicros? text
      some (micros, rest.isEmpty)
  some (⟨part 0, part 1, part 2, micros⟩, clean)

/-- The time that a text denotes, and its offset in microseconds. -/
def time? (cs : List Char) : Option (TimeOfDay × Option Int) := do
  let isZone (c : Char) : Bool := c == '+' || c == '-' || c == 'Z'
  let (time, clean) ← clock? (cs.takeWhile (!isZone ·))
  match cs.dropWhile (!isZone ·) with
  | [] => if clean then some (time, none) else none
  | 'Z' :: rest => if rest.isEmpty then some (time, some 0) else none
  | sign :: rest =>
    let (offset, clean) ← clock? rest
    let micros := offset.sinceMidnight
    if clean then some (time, some (if sign == '-' then -micros else micros)) else none

/-- The number of bytes of the character that starts with a byte. -/
def charWidth (lead : Nat) : Nat :=
  if lead < 0x80 then 1
  else if 0xE0 ≤ lead && lead < 0xF0 then 3
  else if 0xF0 ≤ lead then 4
  else 2

/-- The moment that a text denotes, if there is one; a date alone is its midnight. Places are
counted in bytes. -/
def read? (s : String) : Option Moment := do
  let cs := s.toUTF8.toList.map fun byte => Char.ofNat byte.toNat
  if cs.length < 7 then none
  else
    let ending := dateEnd cs
    let date ← date? (cs.take ending)
    let (time, offset) ← match cs.drop ending with
      | [] => some (.midnight, none)
      | separator :: rest => time? (rest.drop (charWidth separator.toNat - 1))
    let moment : Moment := ⟨date, time, offset⟩
    if moment.exists? then some moment else none

example : read? "2024-W10-7" = some ⟨⟨2024, 3, 10⟩, .midnight, none⟩ := by decide +kernel
example : read? "20240310T1130,25+0130"
    = some ⟨⟨2024, 3, 10⟩, ⟨11, 30, 0, 250000⟩, some 5400000000⟩ := by decide +kernel
example : read? "2024-03-10T11:3000" = none := by decide +kernel

end PodReach.Iso
