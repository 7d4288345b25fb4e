import PodReach.Instant
import PodReach.Proofs.Instant
import PodReach.Proofs.Number.Spending
import PodReach.Text.Digit

/-!
# What the text of an age says

The text of an age is read back as counts of days, hours, minutes and seconds. What it says is at
most the age and less than one unit of its last part below it. The age in seconds goes through a
binary64 number on the way; between instants of the same centuries that number is close enough to
have the right whole part.
-/

namespace PodReach.Age

open PodReach.Text PodReach.Double

/-! ## Reading the text back -/

/-- What a part of an age counts. -/
inductive Measure
  | day
  | hour
  | minute
  | second
  deriving DecidableEq, Repr

namespace Measure

/-- The letter after a count. -/
def letter : Measure → Char
  | day => 'd'
  | hour => 'h'
  | minute => 'm'
  | second => 's'

/-- The length in seconds. -/
def seconds : Measure → Nat
  | day => 86400
  | hour => 3600
  | minute => 60
  | second => 1

/-- What the letter after a count stands for. -/
def ofLetter? (c : Char) : Option Measure :=
  [day, hour, minute, second].find? fun measure => measure.letter == c

@[simp]
theorem ofLetter?_letter (measure : Measure) : ofLetter? measure.letter = some measure := by
  cases measure <;> rfl

@[simp]
theorem isAsciiDigit_letter (measure : Measure) : isAsciiDigit measure.letter = false := by
  cases measure <;> rfl

end Measure

/-- The parts of a text. A digit extends the count under way and a letter closes it. -/
def readFrom : Option Nat → List Char → Option (List (Nat × Measure))
  | none, [] => some []
  | some _, [] => none
  | pending, c :: cs =>
    if isAsciiDigit c then readFrom (some (10 * pending.getD 0 + (c.toNat - 48))) cs
    else do
      let count ← pending
      let measure ← Measure.ofLetter? c
      let parts ← readFrom none cs
      some ((count, measure) :: parts)

/-- The parts of the text of an age, from the left. -/
def read? (text : String) : Option (List (Nat × Measure)) :=
  readFrom none text.toList

/-- The seconds that parts add up to. -/
def total (parts : List (Nat × Measure)) : Nat :=
  (parts.map fun part => part.1 * part.2.seconds).sum

/-- The texts of parts, one after the other. -/
def spell (parts : List (Nat × Measure)) : List Char :=
  parts.flatMap fun part => Nat.toDigits 10 part.1 ++ [part.2.letter]

private theorem readFrom_digitChar {d : Nat} (hd : d < 10) (pending : Option Nat)
    (rest : List Char) :
    readFrom pending (Nat.digitChar d :: rest) =
      readFrom (some (10 * pending.getD 0 + d)) rest := by
  have hcode : (Nat.digitChar d).toNat = 48 + d := Nat.toNat_digitChar_of_lt_ten hd
  have hdigit : isAsciiDigit (Nat.digitChar d) = true := by
    simp only [isAsciiDigit, hcode, Bool.and_eq_true, decide_eq_true_eq]
    omega
  rw [readFrom, if_pos hdigit, hcode, Nat.add_sub_cancel_left]

/-- The digits of a number are read as the number, whatever comes after them. -/
theorem readFrom_toDigits (n : Nat) (rest : List Char) :
    readFrom none (Nat.toDigits 10 n ++ rest) = readFrom (some n) rest := by
  induction n using Nat.strongRecOn generalizing rest with
  | _ n ih =>
      rcases Nat.lt_or_ge n 10 with hsmall | hlarge
      · rw [Nat.toDigits_of_lt_base hsmall, List.singleton_append, readFrom_digitChar hsmall]
        simp
      · -- all digits but the last are those of the tenth
        rw [Nat.toDigits_of_base_le (by decide) hlarge, List.append_assoc, ih (n / 10) (by omega),
          List.singleton_append, readFrom_digitChar (Nat.mod_lt n (by decide)), Option.getD_some,
          Nat.div_add_mod]

/-- What parts spell is read back as the parts. -/
theorem readFrom_spell (parts : List (Nat × Measure)) :
    readFrom none (spell parts) = some parts := by
  induction parts with
  | nil => rfl
  | cons part parts ih =>
      have hstep : spell (part :: parts) =
          Nat.toDigits 10 part.1 ++ part.2.letter :: spell parts := by
        simp [spell]
      rw [hstep, readFrom_toDigits, readFrom, if_neg (by simp)]
      simp [ih]

/-! ## The parts of a whole number of seconds -/

/-- The two largest measures that matter for so many seconds, and their counts. -/
def breakdown (n : Nat) : List (Nat × Measure) :=
  if n < 60 then [(n, .second)]
  else if n < 3600 then [(n / 60, .minute)]
  else if n < 86400 then [(n / 3600, .hour), (n % 3600 / 60, .minute)]
  else [(n / 86400, .day), (n % 86400 / 3600, .hour)]

private theorem toList_toString (n : Nat) : (toString (n : Int)).toList = Nat.toDigits 10 n := by
  have hnat : toString (n : Int) = toString n := rfl
  rw [hnat, Nat.toString_eq_ofList_toDigits, String.toList_ofList]

theorem toList_render (n : Nat) : (render n).toList = spell (breakdown n) := by
  have hzero : max (n : Int) 0 = n := by omega
  have hminutes : (n : Int) / 60 = (n / 60 : Nat) := rfl
  have hhours : (n : Int) / 3600 = (n / 3600 : Nat) := rfl
  have hdays : (n : Int) / 86400 = (n / 86400 : Nat) := rfl
  have hminutesLeft : (n : Int) % 3600 / 60 = (n % 3600 / 60 : Nat) := rfl
  have hhoursLeft : (n : Int) % 86400 / 3600 = (n % 86400 / 3600 : Nat) := rfl
  unfold render breakdown
  rw [hzero, hminutes, hhours, hdays, hminutesLeft, hhoursLeft]
  split_ifs <;> first
    | omega
    | simp only [String.toList_append, toList_toString]
      simp [spell, Measure.letter, toString]

/-- An age that is not positive is shown like none at all. -/
theorem render_of_nonpos {seconds : Int} (h : seconds ≤ 0) : render seconds = render 0 := by
  rw [render, render, if_pos (by omega), if_pos (by omega), max_eq_right h, max_self]

/-- How far apart the ages are that an age can be told from, in seconds. -/
def grain (age : Rat) : Nat :=
  if age < 60 then 1 else if age < 86400 then 60 else 3600

theorem grain_natCast (n : Nat) :
    grain n = if n < 60 then 1 else if n < 86400 then 60 else 3600 := by
  have hminute : (n : Rat) < 60 ↔ n < 60 := by exact_mod_cast Iff.rfl
  have hday : (n : Rat) < 86400 ↔ n < 86400 := by exact_mod_cast Iff.rfl
  simp only [grain, hminute, hday]

theorem total_breakdown (n : Nat) : total (breakdown n) = n / grain n * grain n := by
  rw [grain_natCast]
  unfold breakdown
  split_ifs <;> simp [total, Measure.seconds] <;> omega

theorem total_breakdown_mono {n k : Nat} (h : n ≤ k) :
    total (breakdown n) ≤ total (breakdown k) := by
  rw [total_breakdown, total_breakdown, grain_natCast, grain_natCast]
  split_ifs <;> omega

/-- The forms of an age: the first count is not zero unless it is one of seconds alone, and no count
makes up one of the measure before it. -/
def WellFormed : List (Nat × Measure) → Prop
  | [(n, .second)] => n < 60
  | [(m, .minute)] => 0 < m ∧ m < 60
  | [(h, .hour), (m, .minute)] => 0 < h ∧ h < 24 ∧ m < 60
  | [(d, .day), (h, .hour)] => 0 < d ∧ h < 24
  | _ => False

theorem wellFormed_breakdown (n : Nat) : WellFormed (breakdown n) := by
  unfold breakdown
  split_ifs <;> simp only [WellFormed] <;> omega

/-! ## From microseconds to whole seconds -/

/-- The age in seconds. What is created in the future has the age zero. -/
def elapsed (created now : Instant) : Rat :=
  max 0 (((now.micros - created.micros : Int) : Rat) / 1000000)

/-- The two instants are less than 250 years apart, all of them leap years if need be. -/
def Near (created now : Instant) : Prop :=
  |now.micros - created.micros| < 250 * 366 * 86400 * 1000000

instance (created now : Instant) : Decidable (Near created now) := by
  unfold Near
  infer_instance

/-- The whole seconds of an age. -/
def wholeSeconds (created now : Instant) : Nat :=
  (now.micros - created.micros).toNat / 1000000

private theorem tdiv_of_bounds {q : Rat} {n : Int} (hn : 0 ≤ n) (hlow : (n : Rat) ≤ q)
    (hhigh : q < n + 1) : q.num.tdiv q.den = n := by
  have hnum : 0 ≤ q.num := Rat.num_nonneg.mpr (le_trans (by exact_mod_cast hn) hlow)
  have hfloor : n ≤ q.floor ∧ q.floor < n + 1 := by
    rw [Rat.le_floor_iff, Rat.floor_lt_iff]
    exact ⟨hlow, by exact_mod_cast hhigh⟩
  rw [Int.tdiv_eq_ediv_of_nonneg hnum, ← Rat.floor_def]
  omega

/-- Rounding does not carry a number of microseconds below `2 ^ 33` seconds into another second. -/
theorem truncate_secondsOf {d : Int} (hd : 0 ≤ d) (hlt : d < 250 * 366 * 86400 * 1000000) :
    (Instant.secondsOf d).truncate = some (d / 1000000) := by
  have hwhole : 0 ≤ d / 1000000 := by omega
  have hprecise : Instant.Precise d := by
    rw [Instant.Precise, abs_of_nonneg hd]
    omega
  have hbelow : ((1000000 * (d / 1000000) : Int) : Rat) ≤ d := Int.cast_le.mpr (by omega)
  have habove : (d : Rat) ≤ ((1000000 * (d / 1000000) + 999999 : Int) : Rat) :=
    Int.cast_le.mpr (by omega)
  push_cast at hbelow habove
  have hnonneg : (0 : Rat) ≤ (d : Rat) / 1000000 := div_nonneg (by exact_mod_cast hd) (by norm_num)
  -- a microsecond is missing to the next second, and rounding moves the number by less
  have hmove := (abs_lt.mp hprecise.abs_rounded_sub_lt).2
  have hhigh : rounded ((d : Rat) / 1000000) < (d / 1000000 : Int) + 1 := by
    have hnext : (d : Rat) / 1000000 ≤ (d / 1000000 : Int) + 1 - 1 / 1000000 := by
      rw [div_le_iff₀ (by norm_num)]
      linarith
    linarith
  have hlow : ((d / 1000000 : Int) : Rat) ≤ rounded ((d : Rat) / 1000000) := by
    rcases hwhole.eq_or_lt with hzero | hpos
    · rw [← hzero, Int.cast_zero]
      exact rounded_nonneg hnonneg
    · have hsmall : (d / 1000000).natAbs ≤ wholeLimit := by
        unfold wholeLimit
        omega
      rw [← rounded_intCast hsmall]
      refine rounded_mono (by exact_mod_cast hpos) ?_
      rw [le_div_iff₀ (by norm_num)]
      linarith
  rw [truncate, hprecise.value?_secondsOf, Option.map_some, tdiv_of_bounds hwhole hlow hhigh]

private theorem truncate_le_zero {a : Double} {q : Rat} {n : Int} (ha : a.value? = some q)
    (hq : q ≤ 0) (hn : a.truncate = some n) : n ≤ 0 := by
  rw [truncate, ha, Option.map_some, Option.some_inj] at hn
  have hnum : 0 ≤ -q.num := by
    have := Rat.num_nonpos.mpr hq
    omega
  have hneg : 0 ≤ (-q.num).tdiv q.den := Int.tdiv_nonneg hnum (Int.natCast_nonneg _)
  rw [Int.neg_tdiv, hn] at hneg
  omega

/-- Something that is created now or in the future has no whole seconds of age. -/
theorem seconds_nonpos {created now : Instant} (hfuture : now.micros - created.micros ≤ 0) :
    seconds created now ≤ 0 := by
  have hq : ((now.micros - created.micros : Int) : Rat) / 1000000 ≤ 0 :=
    div_nonpos_of_nonpos_of_nonneg (by exact_mod_cast hfuture) (by norm_num)
  rw [seconds, Instant.secondsOf_eq_round]
  generalize ((now.micros - created.micros : Int) : Rat) / 1000000 = q at hq
  rcases round_cases q with hvalue | ⟨hinfinite, -⟩ | ⟨hinfinite, -⟩
  · cases hseconds : (Double.round q).truncate with
    | none => exact le_rfl
    | some n => exact truncate_le_zero hvalue (rounded_nonpos hq) hseconds
  · rw [hinfinite]
    exact le_rfl
  · rw [hinfinite]
    exact le_rfl

/-- The text of an age is that of its whole seconds. -/
theorem since_eq_render {created now : Instant} (h : Near created now) :
    since (some created) now = render (wholeSeconds created now) := by
  obtain ⟨-, hlt⟩ := abs_lt.mp h
  rw [since, wholeSeconds]
  rcases le_or_gt (now.micros - created.micros) 0 with hfuture | hpast
  · rw [render_of_nonpos (seconds_nonpos hfuture), Int.toNat_of_nonpos hfuture]
    rfl
  · have hwhole : (((now.micros - created.micros).toNat / 1000000 : Nat) : Int) =
        (now.micros - created.micros) / 1000000 := by omega
    rw [seconds, truncate_secondsOf hpast.le hlt, Option.getD_some, hwhole]

theorem read?_since {created now : Instant} (h : Near created now) :
    read? (since (some created) now) = some (breakdown (wholeSeconds created now)) := by
  rw [read?, since_eq_render h, toList_render, readFrom_spell]

/-- The whole seconds are the age without its fraction. -/
theorem wholeSeconds_bounds (created now : Instant) :
    (wholeSeconds created now : Rat) ≤ elapsed created now ∧
      elapsed created now < wholeSeconds created now + 1 := by
  have hmax : elapsed created now = ((now.micros - created.micros).toNat : Rat) / 1000000 := by
    rw [elapsed]
    rcases le_or_gt (now.micros - created.micros) 0 with hfuture | hpast
    · rw [Int.toNat_of_nonpos hfuture, Nat.cast_zero, zero_div]
      exact max_eq_left (div_nonpos_of_nonpos_of_nonneg (by exact_mod_cast hfuture) (by norm_num))
    · have hcast : (((now.micros - created.micros).toNat : Int) : Rat) =
          ((now.micros - created.micros : Int) : Rat) := by rw [Int.toNat_of_nonneg hpast.le]
      rw [← hcast, Int.cast_natCast]
      exact max_eq_right (by positivity)
  have hlow : ((1000000 * wholeSeconds created now : Nat) : Rat) ≤
      ((now.micros - created.micros).toNat : Rat) := by
    rw [wholeSeconds]
    exact_mod_cast Nat.mul_div_le _ _
  have hhigh : ((now.micros - created.micros).toNat : Rat) <
      ((1000000 * (wholeSeconds created now + 1) : Nat) : Rat) := by
    rw [wholeSeconds]
    exact_mod_cast Nat.lt_mul_div_succ _ (by decide)
  push_cast at hlow hhigh
  rw [hmax, le_div_iff₀ (by norm_num), div_lt_iff₀ (by norm_num)]
  constructor <;> linarith

theorem wholeSeconds_mono {created now created' now' : Instant}
    (h : elapsed created now ≤ elapsed created' now') :
    wholeSeconds created now ≤ wholeSeconds created' now' := by
  have hlow := (wholeSeconds_bounds created now).1
  have hhigh := (wholeSeconds_bounds created' now').2
  have hlt : (wholeSeconds created now : Rat) < ((wholeSeconds created' now' + 1 : Nat) : Rat) := by
    push_cast
    linarith
  exact Nat.le_of_lt_succ (Nat.cast_lt.mp hlt)

/-- Below a number of seconds there are as many whole seconds below it. -/
theorem elapsed_lt_iff (created now : Instant) (n : Nat) :
    elapsed created now < n ↔ wholeSeconds created now < n := by
  obtain ⟨hlow, hhigh⟩ := wholeSeconds_bounds created now
  constructor
  · intro h
    exact Nat.cast_lt.mp (hlow.trans_lt h)
  · intro h
    have hnext : ((wholeSeconds created now + 1 : Nat) : Rat) ≤ n := Nat.cast_le.mpr h
    push_cast at hnext
    linarith

theorem grain_elapsed (created now : Instant) :
    grain (elapsed created now) = grain (wholeSeconds created now) := by
  have hminute := elapsed_lt_iff created now 60
  have hday := elapsed_lt_iff created now 86400
  rw [grain_natCast]
  simp only [grain]
  push_cast at hminute hday
  simp only [hminute, hday]

/-! ## The text and the age -/

/-- The text of an age has one of the forms of an age. It never says more than the age, and less by
no more than the text can tell ages apart; of two ages the longer one is never said to be less. -/
theorem since_reads_back {created now : Instant} (h : Near created now) :
    ∃ parts, read? (since (some created) now) = some parts ∧ WellFormed parts ∧
      (total parts : Rat) ≤ elapsed created now ∧
      elapsed created now - total parts < grain (elapsed created now) ∧
      ∀ created' now' parts', Near created' now' → elapsed created now ≤ elapsed created' now' →
        read? (since (some created') now') = some parts' → total parts ≤ total parts' := by
  obtain ⟨hlow, hhigh⟩ := wholeSeconds_bounds created now
  refine ⟨_, read?_since h, wellFormed_breakdown _, ?_, ?_, ?_⟩
  · have hle : total (breakdown (wholeSeconds created now)) ≤ wholeSeconds created now := by
      rw [total_breakdown]
      exact Nat.div_mul_le_self _ _
    exact (Nat.cast_le.mpr hle).trans hlow
  · have hpos : 0 < grain (wholeSeconds created now) := by
      rw [grain_natCast]
      split_ifs <;> decide
    have hnext : wholeSeconds created now + 1 ≤
        total (breakdown (wholeSeconds created now)) + grain (wholeSeconds created now) := by
      have := Nat.lt_div_mul_add (a := wholeSeconds created now) hpos
      rw [total_breakdown]
      omega
    have hcast : (wholeSeconds created now : Rat) + 1 ≤
        total (breakdown (wholeSeconds created now)) + grain (wholeSeconds created now) := by
      exact_mod_cast hnext
    rw [grain_elapsed]
    linarith
  · intro created' now' parts' hnear hle hparts
    rw [read?_since hnear, Option.some_inj] at hparts
    rw [← hparts]
    exact total_breakdown_mono (wholeSeconds_mono hle)

/-- A pod of 90061.5 seconds is shown to be one day and one hour old. -/
theorem since_reads_back_day :
    Near ⟨0⟩ ⟨90061500000⟩ ∧ since (some ⟨0⟩) ⟨90061500000⟩ = "1d1h" ∧
      ∃ parts, read? (since (some ⟨0⟩) ⟨90061500000⟩) = some parts ∧
        (total parts : Rat) ≤ elapsed ⟨0⟩ ⟨90061500000⟩ := by
  have hnear : Near ⟨0⟩ ⟨90061500000⟩ := by decide
  obtain ⟨parts, hread, -, hle, -⟩ := since_reads_back hnear
  exact ⟨hnear, by decide +kernel, parts, hread, hle⟩

end PodReach.Age
