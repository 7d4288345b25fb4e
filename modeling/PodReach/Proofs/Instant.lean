import Mathlib.Tactic.Linarith
import Mathlib.Tactic.NormNum
import PodReach.Instant
import PodReach.Proofs.Number.Order
import PodReach.Proofs.Number.Rounding

/-!
# Seconds as binary64 numbers

Instants and ages are numbers of microseconds, but they are compared and shown as seconds, which are
rounded. For centuries, up to `2 ^ 33` seconds, rounding moves a number by less than half of a
microsecond. So it does not confuse any two of them.
-/

namespace PodReach.Instant

open Double

/-- A number of microseconds that rounding to seconds keeps apart from all others: it is less than
`2 ^ 33` seconds, which is the time from 1970 to 2242. -/
def Precise (micros : Int) : Prop :=
  |micros| < 2 ^ 33 * 1000000

instance (micros : Int) : Decidable (Precise micros) := by
  unfold Precise
  infer_instance

theorem secondsOf_eq_round (micros : Int) :
    secondsOf micros = Double.round ((micros : Rat) / 1000000) := by
  rw [secondsOf, Rat.mkRat_eq_div]
  norm_num

namespace Precise

variable {micros later : Int}

theorem abs_div_lt (h : Precise micros) : |(micros : Rat) / 1000000| < (2 : Rat) ^ (33 : Int) := by
  have hcast : ((|micros| : Int) : Rat) < ((2 ^ 33 * 1000000 : Int) : Rat) := Int.cast_lt.mpr h
  rw [abs_div, ← Int.cast_abs, abs_of_pos (by norm_num : (0 : Rat) < 1000000),
    div_lt_iff₀ (by norm_num)]
  refine lt_of_lt_of_eq hcast ?_
  norm_num

theorem value?_secondsOf (h : Precise micros) :
    (secondsOf micros).value? = some (rounded ((micros : Rat) / 1000000)) := by
  rw [secondsOf_eq_round]
  exact value?_round (h.abs_div_lt.trans (zpow_lt_zpow_right₀ (by norm_num) (by norm_num)))

/-- Rounding moves the number of seconds by less than half of a microsecond. -/
theorem abs_rounded_sub_lt (h : Precise micros) :
    |rounded ((micros : Rat) / 1000000) - (micros : Rat) / 1000000| < 1 / 2000000 :=
  lt_of_le_of_lt (abs_rounded_sub_le (by norm_num) h.abs_div_lt) (by norm_num)

/-- There is a microsecond between any two numbers, so rounding does not bring them together. -/
theorem rounded_lt (h : Precise micros) (h' : Precise later) (hlt : micros < later) :
    rounded ((micros : Rat) / 1000000) < rounded ((later : Rat) / 1000000) := by
  have hup := (abs_lt.mp h.abs_rounded_sub_lt).2
  have hdown := (abs_lt.mp h'.abs_rounded_sub_lt).1
  have hapart : ((micros + 1 : Int) : Rat) ≤ (later : Rat) := Int.cast_le.mpr hlt
  push_cast at hapart
  linarith

/-- Comparing the seconds is comparing the microseconds. -/
theorem secondsOf_le_iff (h : Precise micros) (h' : Precise later) :
    (secondsOf micros).le (secondsOf later) = true ↔ micros ≤ later := by
  rw [le_of_value? h.value?_secondsOf h'.value?_secondsOf, decide_eq_true_iff]
  constructor
  · intro hle
    by_contra hgt
    exact absurd (h'.rounded_lt h (by omega)) (not_lt.mpr hle)
  · intro hle
    rcases hle.eq_or_lt with rfl | hlt
    · exact le_rfl
    · exact (h.rounded_lt h' hlt).le

end Precise

end PodReach.Instant
