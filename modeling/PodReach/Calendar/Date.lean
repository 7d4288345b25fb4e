import PodReach.Text.Digit

/-!
# Dates

Days of the proleptic Gregorian calendar, their numbers counted from the beginning of 1970, and
the weeks of ISO 8601: a week starts on a Monday and belongs to the year of its Thursday.
-/

namespace PodReach

/-- A date: a year, a month and a day of the month. -/
structure Date where
  year : Nat
  month : Nat
  day : Nat
  deriving DecidableEq, Repr, Inhabited

namespace Date

/-- The last year that a date can have. -/
def lastYear : Nat := 9999

/-- Whether a year has a leap day. -/
def isLeap (year : Nat) : Bool :=
  year % 4 == 0 && (year % 100 != 0 || year % 400 == 0)

/-- The number of days of a month. -/
def daysInMonth (year month : Nat) : Nat :=
  if month == 2 then if isLeap year then 29 else 28
  else if [4, 6, 9, 11].contains month then 30
  else 31

/-- Whether a date is on the calendar. -/
def exists? (d : Date) : Bool :=
  1 ≤ d.year && d.year ≤ lastYear && 1 ≤ d.month && d.month ≤ 12
    && 1 ≤ d.day && d.day ≤ daysInMonth d.year d.month

/-- The number of days from 1970-01-01 to a date. Years are counted from March, so that the leap
day is the last day of its year. -/
def dayNumber (d : Date) : Int :=
  let y : Int := if d.month ≤ 2 then (d.year : Int) - 1 else d.year
  let era := y.fdiv 400
  let yearOfEra := y - era * 400
  let monthFromMarch : Int := (d.month + 9) % 12
  let dayOfYear := (153 * monthFromMarch + 2) / 5 + d.day - 1
  let dayOfEra := yearOfEra * 365 + yearOfEra / 4 - yearOfEra / 100 + dayOfYear
  era * 146097 + dayOfEra - 719468

/-- The date of a day, by the same count. -/
def ofDayNumber (n : Int) : Date :=
  let z := n + 719468
  let era := z.fdiv 146097
  let dayOfEra := z - era * 146097
  let yearOfEra := (dayOfEra - dayOfEra / 1460 + dayOfEra / 36524 - dayOfEra / 146096) / 365
  let dayOfYear := dayOfEra - (365 * yearOfEra + yearOfEra / 4 - yearOfEra / 100)
  let monthFromMarch := (5 * dayOfYear + 2) / 153
  let day := dayOfYear - (153 * monthFromMarch + 2) / 5 + 1
  let month := if monthFromMarch < 10 then monthFromMarch + 3 else monthFromMarch - 9
  let year := yearOfEra + era * 400 + if month ≤ 2 then 1 else 0
  ⟨year.toNat, month.toNat, day.toNat⟩

/-- The day of the week of a day, counted from Monday. -/
def weekday (n : Int) : Int :=
  (n + 3) % 7

/-- The Monday of the first week of a year, which is the week of its first Thursday. -/
def firstMonday (year : Nat) : Int :=
  let newYear := dayNumber ⟨year, 1, 1⟩
  let monday := newYear - weekday newYear
  if weekday newYear ≤ 3 then monday else monday + 7

/-- Whether a year has a fifty-third week: it starts on a Thursday, or on a Wednesday if it has a
leap day. -/
def isLong (year : Nat) : Bool :=
  let start := weekday (dayNumber ⟨year, 1, 1⟩)
  start == 3 || (start == 2 && isLeap year)

/-- The date of a day of a week, both counted from one. -/
def ofWeek? (year week day : Nat) : Option Date :=
  if 1 ≤ year && 1 ≤ week && (week ≤ 52 || (week == 53 && isLong year)) && 1 ≤ day && day ≤ 7 then
    some (ofDayNumber (firstMonday year + 7 * ((week : Int) - 1) + ((day : Int) - 1)))
  else none

/-- A date in digits: four for the year, two for month and day. -/
def text (d : Date) : String :=
  let padded (width n : Nat) : List Char :=
    let digits := Nat.toDigits 10 n
    List.replicate (width - digits.length) '0' ++ digits
  String.ofList (padded 4 d.year ++ '-' :: padded 2 d.month ++ '-' :: padded 2 d.day)

example : dayNumber ⟨2024, 3, 10⟩ = 19792 := by decide
example : ofDayNumber 19782 = ⟨2024, 2, 29⟩ := by decide
example : ofWeek? 2024 10 7 = some ⟨2024, 3, 10⟩ := by decide
example : ofWeek? 2020 53 5 = some ⟨2021, 1, 1⟩ := by decide

end Date
end PodReach
