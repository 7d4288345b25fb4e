import Mathlib.Algebra.Order.Field.Power
import Mathlib.Data.Rat.Cast.Order
import Mathlib.Tactic.FieldSimp
import Mathlib.Tactic.Linarith
import Mathlib.Tactic.NormNum
import Mathlib.Tactic.Positivity
import Mathlib.Tactic.Ring
import PodReach.Number.Double

/-!
# How far rounding moves a number

Binary64 rounding keeps the order of positive numbers and moves a number of magnitude below
`2 ^ e` by at most `2 ^ (e - 54)`, half a unit in its last place. Both follow from the same two
facts about the nearest whole number, applied in the units of the number's magnitude.
-/

namespace PodReach.Double

/-! ## The nearest whole number -/

private theorem half_eq : (mkRat 1 2 : Rat) = 1 / 2 := by
  norm_num [Rat.mkRat_eq_div]

private theorem nearestEven_bounds (q : Rat) :
    q.floor ≤ nearestEven q ∧ nearestEven q ≤ q.floor + 1 := by
  simp only [nearestEven]
  split_ifs <;> constructor <;> omega

/-- A number is at most one half away from the nearest whole number. -/
theorem abs_nearestEven_sub_le (q : Rat) : |(nearestEven q : Rat) - q| ≤ 1 / 2 := by
  have hlow := Rat.floor_le q
  have hhigh := Rat.lt_floor_add_one q
  push_cast at hhigh
  simp only [nearestEven, half_eq]
  rw [abs_le]
  split_ifs <;> constructor <;> push_cast <;> linarith

/-- A whole number is its own nearest whole number. -/
theorem nearestEven_intCast (n : Int) : nearestEven (n : Rat) = n := by
  simp [nearestEven, half_eq, Rat.floor_intCast]

/-- Taking the nearest whole number keeps the order. -/
theorem nearestEven_mono {p q : Rat} (hpq : p ≤ q) : nearestEven p ≤ nearestEven q := by
  rcases lt_or_eq_of_le (Rat.floor_monotone hpq) with hfloor | hfloor
  · have hp := (nearestEven_bounds p).2
    have hq := (nearestEven_bounds q).1
    omega
  · -- with the same whole part only the order of the fractions matters
    have hrest : p - (p.floor : Rat) ≤ q - (p.floor : Rat) := by linarith
    simp only [nearestEven, ← hfloor]
    split_ifs <;> first | omega | (exfalso; linarith)

/-! ## Magnitude and unit -/

/-- The model's powers of two are the powers of two. -/
theorem twoPow_eq_zpow (k : Int) : twoPow k = (2 : Rat) ^ k := by
  cases k with
  | ofNat n =>
      change ((Nat.pow 2 n : Nat) : Rat) = (2 : Rat) ^ (n : Int)
      rw [zpow_natCast]
      exact_mod_cast rfl
  | negSucc n =>
      change mkRat 1 (Nat.pow 2 (n + 1)) = (2 : Rat) ^ (Int.negSucc n)
      rw [zpow_negSucc, Rat.mkRat_eq_div]
      simp

private theorem zpow_of_nonneg {k : Int} (hk : 0 ≤ k) :
    (2 : Rat) ^ k = ((2 ^ k.toNat : Int) : Rat) := by
  obtain ⟨n, rfl⟩ := Int.eq_ofNat_of_zero_le hk
  simp

/-- The exponent of the magnitude of a number: it lies between this power of two and the next. -/
def magnitude (q : Rat) : Int :=
  floorLog2 q.num.natAbs q.den

private theorem abs_eq_natAbs_div (q : Rat) : |q| = (q.num.natAbs : Rat) / (q.den : Rat) := by
  have hden : (0 : Rat) < (q.den : Rat) := by exact_mod_cast q.den_pos
  conv_lhs => rw [← Rat.num_div_den q]
  rw [abs_div, abs_of_pos hden, Nat.cast_natAbs, Int.cast_abs]

/-- The defining property of the magnitude. -/
theorem zpow_magnitude {q : Rat} (hq : q ≠ 0) :
    (2 : Rat) ^ magnitude q ≤ |q| ∧ |q| < (2 : Rat) ^ (magnitude q + 1) := by
  have hnum : q.num.natAbs ≠ 0 := by simpa using hq
  have hden : (0 : Rat) < (q.den : Rat) := by exact_mod_cast q.den_pos
  have numLow : (2 : Rat) ^ (q.num.natAbs.log2 : Int) ≤ q.num.natAbs := by
    rw [zpow_natCast]
    exact_mod_cast Nat.log2_self_le hnum
  have numHigh : (q.num.natAbs : Rat) < (2 : Rat) ^ ((q.num.natAbs.log2 : Int) + 1) := by
    have h := Nat.lt_log2_self (n := q.num.natAbs)
    exact_mod_cast h
  have denLow : (2 : Rat) ^ (q.den.log2 : Int) ≤ q.den := by
    rw [zpow_natCast]
    exact_mod_cast Nat.log2_self_le q.den_nz
  have denHigh : (q.den : Rat) < (2 : Rat) ^ ((q.den.log2 : Int) + 1) := by
    have h := Nat.lt_log2_self (n := q.den)
    exact_mod_cast h
  rw [abs_eq_natAbs_div, le_div_iff₀ hden, div_lt_iff₀ hden]
  -- the difference of the two logarithms is the magnitude or one above it
  set k : Int := (q.num.natAbs.log2 : Int) - (q.den.log2 : Int) with hk
  have upper : (q.num.natAbs : Rat) < (2 : Rat) ^ (k + 1) * q.den := by
    calc (q.num.natAbs : Rat) < (2 : Rat) ^ ((q.num.natAbs.log2 : Int) + 1) := numHigh
      _ = (2 : Rat) ^ (k + 1) * (2 : Rat) ^ (q.den.log2 : Int) := by
          rw [← zpow_add₀ (by norm_num), hk]
          ring_nf
      _ ≤ (2 : Rat) ^ (k + 1) * q.den := by gcongr
  have lower : (2 : Rat) ^ (k - 1) * q.den ≤ q.num.natAbs := by
    calc (2 : Rat) ^ (k - 1) * q.den
        ≤ (2 : Rat) ^ (k - 1) * (2 : Rat) ^ ((q.den.log2 : Int) + 1) := by gcongr
      _ = (2 : Rat) ^ (q.num.natAbs.log2 : Int) := by
          rw [← zpow_add₀ (by norm_num), hk]
          ring_nf
      _ ≤ q.num.natAbs := numLow
  unfold magnitude floorLog2
  simp only [twoPow_eq_zpow, ← hk]
  split_ifs with hcase
  · exact ⟨by linarith, upper⟩
  · rw [sub_add_cancel]
    exact ⟨lower, by linarith⟩

/-- A number below a power of two has a smaller magnitude than its exponent. -/
theorem magnitude_lt {q : Rat} {e : Int} (hq : q ≠ 0) (hlt : |q| < (2 : Rat) ^ e) :
    magnitude q < e := by
  have h := lt_of_le_of_lt (zpow_magnitude hq).1 hlt
  exact (zpow_lt_zpow_iff_right₀ (by norm_num)).mp h

/-- A number that is at least a power of two has at least its exponent for a magnitude. -/
theorem le_magnitude {q : Rat} {e : Int} (hq : q ≠ 0) (hle : (2 : Rat) ^ e ≤ |q|) :
    e ≤ magnitude q := by
  have h := lt_of_le_of_lt hle (zpow_magnitude hq).2
  have h' := (zpow_lt_zpow_iff_right₀ (by norm_num)).mp h
  omega

/-- The exponent of the unit in the last place of a number. -/
def unitExponent (q : Rat) : Int :=
  max (magnitude q - 52) (-1074)

/-- The multiple of its unit that is nearest to a number. -/
def rounded (q : Rat) : Rat :=
  (nearestEven (q / (2 : Rat) ^ unitExponent q) : Rat) * (2 : Rat) ^ unitExponent q

/-- A number moves by at most half a unit. -/
theorem abs_rounded_sub_le_half_unit (q : Rat) :
    |rounded q - q| ≤ (2 : Rat) ^ unitExponent q / 2 := by
  have hunit : (0 : Rat) < (2 : Rat) ^ unitExponent q := by positivity
  have hfactor : rounded q - q =
      ((nearestEven (q / (2 : Rat) ^ unitExponent q) : Rat) - q / (2 : Rat) ^ unitExponent q) *
        (2 : Rat) ^ unitExponent q := by
    unfold rounded
    field_simp
  rw [hfactor, abs_mul, abs_of_pos hunit]
  have hnear := abs_nearestEven_sub_le (q / (2 : Rat) ^ unitExponent q)
  calc _ ≤ 1 / 2 * (2 : Rat) ^ unitExponent q := by gcongr
    _ = _ := by ring

/-- A whole multiple of its own unit is not moved. -/
theorem rounded_eq_self {q : Rat} {m : Int} (hq : q = (m : Rat) * (2 : Rat) ^ unitExponent q) :
    rounded q = q := by
  have hdiv : q / (2 : Rat) ^ unitExponent q = (m : Rat) := by
    rw [div_eq_iff (by positivity)]
    exact hq
  rw [rounded, hdiv, nearestEven_intCast, ← hq]

/-- Below `2 ^ e` a number moves by at most `2 ^ (e - 54)`. -/
theorem abs_rounded_sub_le {q : Rat} {e : Int} (he : -1020 ≤ e) (hlt : |q| < (2 : Rat) ^ e) :
    |rounded q - q| ≤ (2 : Rat) ^ (e - 54) := by
  have hunit : unitExponent q ≤ e - 53 ∨ q = 0 := by
    by_cases hq : q = 0
    · exact Or.inr hq
    · have := magnitude_lt hq hlt
      unfold unitExponent
      omega
  rcases hunit with hunit | rfl
  · calc |rounded q - q| ≤ (2 : Rat) ^ unitExponent q / 2 := abs_rounded_sub_le_half_unit q
      _ ≤ (2 : Rat) ^ (e - 53) / 2 := by
          gcongr
          norm_num
      _ = (2 : Rat) ^ (e - 54) := by
          rw [show e - 53 = (e - 54) + 1 by ring, zpow_add_one₀ (by norm_num)]
          ring
  · have hzero : rounded 0 = 0 := rounded_eq_self (m := 0) (by simp)
    rw [hzero, sub_zero, abs_zero]
    positivity

/-- Small whole numbers are not moved. -/
theorem rounded_intCast {n : Int} (hn : n.natAbs ≤ wholeLimit) : rounded (n : Rat) = n := by
  by_cases hzero : n = 0
  · subst hzero
    exact rounded_eq_self (m := 0) (by simp)
  have hq : (n : Rat) ≠ 0 := by exact_mod_cast hzero
  have habs : |(n : Rat)| = (n.natAbs : Rat) := by
    rw [Nat.cast_natAbs, Int.cast_abs]
  have hlt : |(n : Rat)| < (2 : Rat) ^ (54 : Int) := by
    rw [habs]
    have hnat : (n.natAbs : Rat) ≤ (wholeLimit : Rat) := by exact_mod_cast hn
    exact lt_of_le_of_lt hnat (by norm_num [wholeLimit])
  have hmagnitude := magnitude_lt hq hlt
  rcases le_or_gt (unitExponent (n : Rat)) 0 with hunit | hunit
  · refine rounded_eq_self (m := n * 2 ^ (-unitExponent (n : Rat)).toNat) ?_
    rw [Int.cast_mul, ← zpow_of_nonneg (by omega), mul_assoc, ← zpow_add₀ (by norm_num)]
    simp
  · -- only the two numbers of magnitude `2 ^ 53` have the unit two
    have hunitEq : unitExponent (n : Rat) = 1 ∧ magnitude (n : Rat) = 53 := by
      unfold unitExponent at hunit ⊢
      omega
    have hge : (wholeLimit : Rat) ≤ (n.natAbs : Rat) := by
      rw [← habs]
      have h := (zpow_magnitude hq).1
      rw [hunitEq.2] at h
      exact le_trans (by norm_num [wholeLimit]) h
    have hge' : wholeLimit ≤ n.natAbs := by exact_mod_cast hge
    have heven : n = n / 2 * 2 := by
      unfold wholeLimit at hn hge'
      omega
    refine rounded_eq_self (m := n / 2) ?_
    rw [hunitEq.1, zpow_one]
    exact_mod_cast heven

private theorem zpow_div_unit {q : Rat} {e : Int} (he : unitExponent q ≤ e) :
    (2 : Rat) ^ e / (2 : Rat) ^ unitExponent q =
      ((2 ^ (e - unitExponent q).toNat : Int) : Rat) := by
  rw [← zpow_sub₀ (by norm_num), zpow_of_nonneg (by omega)]

/-- Rounding does not cross a power of two from below. -/
theorem rounded_le_zpow {q : Rat} {e : Int} (hle : q ≤ (2 : Rat) ^ e)
    (he : unitExponent q ≤ e) : rounded q ≤ (2 : Rat) ^ e := by
  have hdiv : q / (2 : Rat) ^ unitExponent q ≤ ((2 ^ (e - unitExponent q).toNat : Int) : Rat) := by
    rw [← zpow_div_unit he]
    gcongr
  have hnear := nearestEven_mono hdiv
  rw [nearestEven_intCast] at hnear
  have hcast : (nearestEven (q / (2 : Rat) ^ unitExponent q) : Rat) ≤
      (2 : Rat) ^ e / (2 : Rat) ^ unitExponent q := by
    rw [zpow_div_unit he]
    exact_mod_cast hnear
  exact (le_div_iff₀ (by positivity)).mp hcast

/-- Rounding does not cross a power of two from above. -/
theorem zpow_le_rounded {q : Rat} {e : Int} (hle : (2 : Rat) ^ e ≤ q)
    (he : unitExponent q ≤ e) : (2 : Rat) ^ e ≤ rounded q := by
  have hdiv : ((2 ^ (e - unitExponent q).toNat : Int) : Rat) ≤ q / (2 : Rat) ^ unitExponent q := by
    rw [← zpow_div_unit he]
    gcongr
  have hnear := nearestEven_mono hdiv
  rw [nearestEven_intCast] at hnear
  have hcast : (2 : Rat) ^ e / (2 : Rat) ^ unitExponent q ≤
      (nearestEven (q / (2 : Rat) ^ unitExponent q) : Rat) := by
    rw [zpow_div_unit he]
    exact_mod_cast hnear
  exact (div_le_iff₀ (by positivity)).mp hcast

/-- Rounding keeps the order of positive numbers. Numbers with the same unit keep it because
the nearest whole number does, others are separated by a power of two. -/
theorem rounded_mono {p q : Rat} (hp : 0 < p) (hpq : p ≤ q) : rounded p ≤ rounded q := by
  have hq : 0 < q := lt_of_lt_of_le hp hpq
  have hpAbs := zpow_magnitude hp.ne'
  have hqAbs := zpow_magnitude hq.ne'
  rw [abs_of_pos hp] at hpAbs
  rw [abs_of_pos hq] at hqAbs
  have hmagnitude : magnitude p ≤ magnitude q :=
    le_magnitude hq.ne' (by rw [abs_of_pos hq]; exact le_trans hpAbs.1 hpq)
  by_cases hunit : unitExponent p = unitExponent q
  · unfold rounded
    rw [hunit]
    have hdiv : p / (2 : Rat) ^ unitExponent q ≤ q / (2 : Rat) ^ unitExponent q := by gcongr
    have hnear := nearestEven_mono hdiv
    gcongr
  · have hpUnit : unitExponent p ≤ magnitude q ∧ unitExponent q ≤ magnitude q ∧
        magnitude p + 1 ≤ magnitude q := by
      unfold unitExponent at hunit ⊢
      omega
    have hbelow : p ≤ (2 : Rat) ^ magnitude q :=
      le_trans hpAbs.2.le (zpow_le_zpow_right₀ (by norm_num) hpUnit.2.2)
    exact le_trans (rounded_le_zpow hbelow hpUnit.1) (zpow_le_rounded hqAbs.1 hpUnit.2.1)

/-! ## The values of arithmetic -/

private theorem roundGeneral_eq (q : Rat) :
    roundGeneral q =
      if (2 : Rat) ^ (1024 : Int) ≤ rounded q then .infinite false
      else if rounded q ≤ -(2 : Rat) ^ (1024 : Int) then .infinite true
      else if rounded q = 0 then .zero (decide (q < 0))
      else .finite (rounded q) := by
  simp only [roundGeneral, twoPow_eq_zpow]
  rfl

/-- Rounding yields the nearest multiple of the unit, or an infinity if that is out of range. -/
theorem round_cases (q : Rat) :
    (round q).value? = some (rounded q) ∨
      (round q = .infinite false ∧ (2 : Rat) ^ (1024 : Int) ≤ rounded q) ∨
      (round q = .infinite true ∧ rounded q ≤ -(2 : Rat) ^ (1024 : Int)) := by
  unfold round
  split_ifs with hwhole
  · have hq : q = (q.num : Rat) := by
      conv_lhs => rw [← Rat.num_div_den q, hwhole.1]
      simp
    have hfixed := rounded_intCast hwhole.2
    rw [← hq] at hfixed
    rw [hfixed]
    exact Or.inl rfl
  · rw [roundGeneral_eq]
    split_ifs with hhigh hlow hzero
    · exact Or.inr (Or.inl ⟨rfl, hhigh⟩)
    · exact Or.inr (Or.inr ⟨rfl, hlow⟩)
    · left
      unfold zero
      split_ifs <;> simp [value?, hzero]
    · exact Or.inl rfl

/-- Within the range of binary64 a rational is rounded to the nearest multiple of its unit. -/
theorem value?_round {q : Rat} (hlt : |q| < (2 : Rat) ^ (1000 : Int)) :
    (round q).value? = some (rounded q) := by
  have hmove := abs_le.mp (abs_rounded_sub_le (by norm_num) hlt)
  have hbound := abs_lt.mp hlt
  have hsmall : (2 : Rat) ^ ((1000 : Int) - 54) ≤ (2 : Rat) ^ (1000 : Int) :=
    zpow_le_zpow_right₀ (by norm_num) (by norm_num)
  have hlarge : (2 : Rat) ^ (1000 : Int) * 2 ≤ (2 : Rat) ^ (1024 : Int) := by
    rw [← zpow_add_one₀ (by norm_num)]
    exact zpow_le_zpow_right₀ (by norm_num) (by norm_num)
  have hcases := round_cases q
  -- the powers themselves are too large to compute with
  generalize (2 : Rat) ^ (1024 : Int) = overflow at hlarge hcases
  generalize (2 : Rat) ^ (1000 : Int) = bound at hbound hsmall hlarge
  generalize (2 : Rat) ^ ((1000 : Int) - 54) = error at hmove hsmall
  rcases hcases with hvalue | ⟨-, hhigh⟩ | ⟨-, hlow⟩
  · exact hvalue
  · exact absurd hhigh (by rw [not_le]; linarith)
  · exact absurd hlow (by rw [not_le]; linarith)

end PodReach.Double
