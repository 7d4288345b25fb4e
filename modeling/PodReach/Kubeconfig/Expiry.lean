import PodReach.Calendar.Moment
import PodReach.Instant
import PodReach.Json.Value
import PodReach.Kubeconfig.Part
import PodReach.Number.Decimal
import PodReach.Text.Integer

/-!
# When credentials expire

Credentials count as expired five minutes before they are. Their time is written as a timestamp
somewhere in a text, as a number of seconds, or in a form with blanks that has no offset.
-/

namespace PodReach.Kubeconfig.Expiry

open PodReach.Text

/-- How long before their time credentials count as expired, in microseconds. -/
def margin : Int := 300000000

/-- The first moment of the calendar, in microseconds from the beginning of 1970. -/
def firstMoment : Int := (Date.dayNumber ⟨1, 1, 1⟩) * Moment.day

/-- Whether credentials that last until a moment count as expired. The margin must not lead out of
the calendar. -/
def isPast (now : Instant) (ending : Moment) : Except Mistake Bool :=
  if ending.shownMicros - margin < firstMoment then .error .overflow
  else .ok (ending.utcMicros - margin ≤ now.micros)

/-- A number of exactly `width` digits of any script, and what follows. -/
def number? (width : Nat) (cs : List Char) : Option (Nat × List Char) := do
  let digits ← (cs.take width).mapM digitValue?
  if digits.length == width then some (Text.ofDigits digits, cs.drop width) else none

/-- Three numbers with the same mark between them, the first one of `width` digits and the others
of two. -/
def triple? (width : Nat) (mark : Char) (cs : List Char) :
    Option ((Nat × Nat × Nat) × List Char) := do
  let after (cs : List Char) : Option (List Char) := match cs with
    | c :: rest => if c == mark then some rest else none
    | [] => none
  let (a, cs) ← number? width cs
  let (b, cs) ← number? 2 (← after cs)
  let (c, cs) ← number? 2 (← after cs)
  some ((a, b, c), cs)

/-- The microseconds of a fraction at the start of a text, and what follows it. -/
def fraction (cs : List Char) : Nat × List Char :=
  match cs with
  | c :: rest =>
    let digits := rest.takeWhile fun c => (digitValue? c).isSome
    if (c == '.' || c == ',') && !digits.isEmpty then
      let part := (Double.read? (String.ofList ('.' :: digits))).getD 0
      ((((Double.ofInt 1000000).mul part).truncate.getD 0).toNat, rest.drop digits.length)
    else (0, cs)
  | [] => (0, [])

/-- The offset at the start of a text, in minutes; none is UTC. The minutes are always to the east.
A blank in its place is no offset at all. -/
def offset (cs : List Char) : Except Mistake Int :=
  let signed (factor : Int) (hours : Nat) (rest : List Char) : Int :=
    match rest with
    | ':' :: more =>
      match number? 2 more with
      | some (minutes, _) => factor * (60 * hours) + minutes
      | none => 0
    | _ => 0
  match cs with
  | ' ' :: _ => .error .noSuchPart
  | sign :: rest =>
    if sign == '+' || sign == '-' then
      let factor : Int := if sign == '-' then -1 else 1
      match number? 2 rest, number? 1 rest with
      | some (hours, rest), _ => .ok (signed factor hours rest)
      | none, some (hours, rest) => .ok (signed factor hours rest)
      | none, none => .ok 0
    else .ok 0
  | [] => .ok 0

/-- The moment of the timestamp at the start of a text; nothing if there is none. -/
def momentAt? (cs : List Char) : Option (Except Mistake Moment) := do
  let ((year, month, day), cs) ← triple? 4 '-' cs
  let cs ← match cs with
    | c :: rest => if c == ' ' || c == 'T' || c == 't' then some rest else none
    | [] => none
  let ((hour, minute, second), cs) ← triple? 2 ':' cs
  let (micros, cs) := fraction cs
  some do
    let minutes ← offset cs
    let moment : Moment := ⟨⟨year, month, day⟩, ⟨hour, minute, second, micros⟩,
      some (minutes * 60000000)⟩
    if moment.exists? && micros < 1000000 then .ok moment else .error .badValue

/-- The moment of the first timestamp in a text. -/
def moment : List Char → Except Mistake Moment
  | [] => .error .noSuchPart
  | c :: rest => (momentAt? (c :: rest)).getD (moment rest)

/-- Whether a time that is a timestamp is past. -/
def isTimestampPast (now : Instant) (time : Yaml) : Except Mistake Bool :=
  match time with
  | .moment m => isPast now m
  | .text s => do isPast now (← moment s.toList)
  | _ => .error .wrongKind

/-- A number of one or two digits up to a bound. -/
def small? (low high : Nat) (cs : List Char) : Option Nat :=
  let n := decimalOf cs
  if (cs.length == 1 || cs.length == 2) && cs.all isAsciiDigit && low ≤ n && n ≤ high then some n
  else none

/-- The moment of a date and a time with blanks between them and a fraction of up to six digits. -/
def spaced? (cs : List Char) : Option Moment := do
  let isWord (c : Char) : Bool := !isBlank c
  let clock := (cs.dropWhile isWord).dropWhile isBlank
  let [year, month, day] := splitOnChar '-' (cs.takeWhile isWord) | none
  let [hour, minute, seconds] := splitOnChar ':' clock | none
  let [second, part] := splitOnChar '.' seconds | none
  let (year, rest) ← number? 4 year
  if !rest.isEmpty || part.isEmpty || 6 < part.length || !part.all isAsciiDigit then none
  else
    let date : Date := ⟨year, ← small? 1 12 month, ← small? 1 31 day⟩
    let micros := decimalOf (part ++ List.replicate (6 - part.length) '0')
    let time : TimeOfDay := ⟨← small? 0 23 hour, ← small? 0 59 minute, ← small? 0 61 second, micros⟩
    if date.exists? then some ⟨date, time, none⟩ else none

/-- Whether a time that is written with blanks, or as seconds, is past. -/
def isSpacedPast (now : Instant) (time : String) : Except Mistake Bool :=
  let second (micros : Int) : Int := micros / 1000000
  match time.toList.mapM digitValue? with
  | some (d :: digits) =>
    if maxNumeralDigits ≤ digits.length then .error .badValue
    else .ok ((ofDigits (d :: digits) : Int) * 1000000 < now.micros)
  | _ =>
    match spaced? time.toList with
    | some m => .ok (second m.utcMicros < second now.micros)
    | none => .error .badValue

/-- The largest number of seconds that a clock counts to. -/
def lastSecond : Rat := 9223372036854775807

/-- Whether a time that is a number of seconds is past. -/
def isSecondsPast (now : Instant) (time : Json) : Except Mistake Bool :=
  let within (seconds : Rat) : Except Mistake Bool :=
    if lastSecond < seconds || seconds < -lastSecond then .error .overflow
    else
      let micros := Double.nearestEven (seconds * 1000000)
      let day := micros.fdiv Moment.day
      let date := Date.ofDayNumber day
      if !date.exists? || micros < firstMoment then .error .badValue
      else if micros - margin < firstMoment then .error .overflow
      else .ok (micros - margin ≤ now.micros)
  match time with
  | .integer n => within n
  | .bool b => within (if b then 1 else 0)
  | .number x =>
    match x with
    | .nan => .error .badValue
    | other => match other.value? with
      | some q => within q
      | none => .error .overflow
  | _ => .error .wrongKind

example : (moment "until 2024-03-10T12:00:00.5+01:00".toList).toOption
    = some ⟨⟨2024, 3, 10⟩, ⟨12, 0, 0, 500000⟩, some 3600000000⟩ := by decide +kernel
example : spaced? "2024-3-10  1:02:03.5".toList
    = some ⟨⟨2024, 3, 10⟩, ⟨1, 2, 3, 500000⟩, none⟩ := by decide +kernel

end PodReach.Kubeconfig.Expiry
