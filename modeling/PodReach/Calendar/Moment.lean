import PodReach.Calendar.Date

/-!
# Times of day and moments

A moment is a date with a time of day and, perhaps, the offset of its clock from UTC. Moments
with an offset are instants; those without one only say what a clock shows.
-/

namespace PodReach

/-- A time of day, to the microsecond. -/
structure TimeOfDay where
  hour : Nat
  minute : Nat
  second : Nat
  micros : Nat
  deriving DecidableEq, Repr, Inhabited

namespace TimeOfDay

/-- The beginning of a day. -/
def midnight : TimeOfDay := ⟨0, 0, 0, 0⟩

/-- Whether a clock can show a time. -/
def exists? (t : TimeOfDay) : Bool :=
  t.hour ≤ 23 && t.minute ≤ 59 && t.second ≤ 59

/-- The microseconds since midnight. -/
def sinceMidnight (t : TimeOfDay) : Int :=
  (3600 * t.hour + 60 * t.minute + t.second : Int) * 1000000 + t.micros

/-- A number in at least two digits. -/
def twoDigits (n : Nat) : List Char :=
  if n < 10 then '0' :: Nat.toDigits 10 n else Nat.toDigits 10 n

/-- The text of a time, with six digits of a second's fraction unless it has none. -/
def text (t : TimeOfDay) : List Char :=
  let fraction :=
    if t.micros == 0 then []
    else
      let digits := Nat.toDigits 10 t.micros
      '.' :: List.replicate (6 - digits.length) '0' ++ digits
  twoDigits t.hour ++ ':' :: twoDigits t.minute ++ ':' :: twoDigits t.second ++ fraction

end TimeOfDay

/-- A date with a time of day. The offset of its clock from UTC, if it is known, is in
microseconds, to the east. -/
structure Moment where
  date : Date
  time : TimeOfDay
  offset : Option Int
  deriving DecidableEq, Repr, Inhabited

namespace Moment

/-- The microseconds of a day. -/
def day : Int := 86400000000

/-- Whether the date is on the calendar, a clock can show the time, and the offset is less than a
day. -/
def exists? (m : Moment) : Bool :=
  m.date.exists? && m.time.exists? && m.offset.all fun o => -day < o && o < day

/-- What the clock of a moment shows, in microseconds since the beginning of 1970. -/
def shownMicros (m : Moment) : Int :=
  m.date.dayNumber * day + m.time.sinceMidnight

/-- The microseconds from the beginning of 1970 in UTC to a moment; without an offset its clock
shows UTC. -/
def utcMicros (m : Moment) : Int :=
  m.shownMicros - m.offset.getD 0

/-- Whether two moments are the same: both are instants and the same one, or neither is one and
their clocks show the same. -/
def same (a b : Moment) : Bool :=
  a.offset.isSome == b.offset.isSome && a.utcMicros == b.utcMicros

/-- The text of an offset: its sign, hours and minutes, and what is left of it. -/
def offsetText (offset : Int) : List Char :=
  let size := offset.natAbs
  let whole := size / 1000000
  let parts : TimeOfDay := ⟨whole / 3600, whole / 60 % 60, whole % 60, size % 1000000⟩
  let shown := if parts.second == 0 && parts.micros == 0 then parts.text.take 5 else parts.text
  (if offset < 0 then '-' else '+') :: shown

/-- The text of a moment: its date and time with a space between them, and its offset. -/
def text (m : Moment) : String :=
  m.date.text ++ String.ofList (' ' :: m.time.text ++ (m.offset.map offsetText).getD [])

example : text ⟨⟨2024, 1, 2⟩, ⟨3, 4, 5, 500000⟩, some 5400000000⟩
    = "2024-01-02 03:04:05.500000+01:30" := by decide +kernel
example : same ⟨⟨2024, 1, 2⟩, ⟨1, 0, 0, 0⟩, some 3600000000⟩ ⟨⟨2024, 1, 2⟩, .midnight, some 0⟩ := by
  decide

end Moment
end PodReach
