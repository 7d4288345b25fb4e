import PodReach.Proofs.Number.Counting

/-!
# Spending a budget two seconds at a time

Two seconds are taken off a budget again and again, and every difference is rounded. From `2 ^ 54`
downwards nothing is lost: after enough steps the budget is used up, wherever it began. But above
`2 ^ 54` neighbouring numbers are four apart, and from `2 ^ 54 + 8` on a difference of two is
rounded back, a tie going to the even neighbour. Such a budget never shrinks, and neither does an
infinite one. What is no number stays so.
-/

namespace PodReach.Double

/-! ## One step -/

theorem two_eq : (2 : Double) = finite 2 :=
  ofInt_eq_finite (n := 2) (by decide)

theorem zero_eq : (0 : Double) = finite 0 :=
  ofInt_eq_finite (n := 0) (by decide)

theorem finite_sub_two (p : Rat) : (finite p).sub 2 = round (p - 2) := by
  rw [two_eq, sub_eq_add_neg]
  rfl

/-- Rounding keeps the sign of a number. -/
theorem rounded_nonneg {q : Rat} (hq : 0 ≤ q) : 0 ≤ rounded q := by
  have hdiv : ((0 : Int) : Rat) ≤ q / (2 : Rat) ^ unitExponent q := by
    rw [Int.cast_zero]
    positivity
  have hnear := nearestEven_mono hdiv
  rw [nearestEven_intCast] at hnear
  have hcast : (0 : Rat) ≤ (nearestEven (q / (2 : Rat) ^ unitExponent q) : Rat) := by
    exact_mod_cast hnear
  unfold rounded
  positivity

theorem rounded_nonpos {q : Rat} (hq : q ≤ 0) : rounded q ≤ 0 := by
  have hdiv : q / (2 : Rat) ^ unitExponent q ≤ ((0 : Int) : Rat) := by
    rw [Int.cast_zero]
    exact div_nonpos_of_nonpos_of_nonneg hq (by positivity)
  have hnear := nearestEven_mono hdiv
  rw [nearestEven_intCast] at hnear
  have hcast : (nearestEven (q / (2 : Rat) ^ unitExponent q) : Rat) ≤ 0 := by
    exact_mod_cast hnear
  unfold rounded
  exact mul_nonpos_of_nonpos_of_nonneg hcast (by positivity)

/-- A number that is at most minus one is rounded to a negative one. -/
theorem rounded_neg {q : Rat} (hq : q ≤ -1) : rounded q < 0 := by
  have hnonzero : q ≠ 0 := by
    rintro rfl
    norm_num at hq
  have habs : |q| = -q := abs_of_neg (by linarith)
  have hmagnitude : 0 ≤ magnitude q :=
    le_magnitude hnonzero (by rw [habs, zpow_zero]; linarith)
  have hunit : (2 : Rat) ^ unitExponent q ≤ -q := by
    rw [← habs]
    refine le_trans (zpow_le_zpow_right₀ (by norm_num) ?_) (zpow_magnitude hnonzero).1
    unfold unitExponent
    omega
  have hpos : (0 : Rat) < (2 : Rat) ^ unitExponent q := by positivity
  have hdiv : q / (2 : Rat) ^ unitExponent q ≤ ((-1 : Int) : Rat) := by
    rw [div_le_iff₀ hpos]
    push_cast
    linarith
  have hnear := nearestEven_mono hdiv
  rw [nearestEven_intCast] at hnear
  have hcast : (nearestEven (q / (2 : Rat) ^ unitExponent q) : Rat) ≤ -1 := by
    exact_mod_cast hnear
  unfold rounded
  exact mul_neg_of_neg_of_pos (by linarith) hpos

/-- A number without a positive value is rounded to one that is at most zero. -/
theorem round_le_zero {q : Rat} (hq : q ≤ 0) : (round q).le 0 = true := by
  have hnonpos := rounded_nonpos hq
  have hpos : (0 : Rat) < (2 : Rat) ^ (1024 : Int) := by positivity
  rcases round_cases q with hvalue | ⟨-, hhigh⟩ | ⟨hinfinite, -⟩
  · rw [le_of_value? hvalue (value?_ofNat 0 (by decide))]
    exact decide_eq_true (by simpa using hnonpos)
  · exact absurd (hpos.trans_le hhigh) (not_lt.mpr hnonpos)
  · rw [hinfinite]
    rfl

theorem not_zero_le_round {q : Rat} (hq : q ≤ -1) : Double.le 0 (round q) = false := by
  have hneg := rounded_neg hq
  have hpos : (0 : Rat) < (2 : Rat) ^ (1024 : Int) := by positivity
  rcases round_cases q with hvalue | ⟨-, hhigh⟩ | ⟨hinfinite, -⟩
  · rw [le_of_value? (value?_ofNat 0 (by decide)) hvalue]
    exact decide_eq_false (by simpa using hneg)
  · exact absurd (hpos.trans_le hhigh) (not_lt.mpr hneg.le)
  · rw [hinfinite]
    rfl

/-- What is at most a bound is a number with such a value, or minus infinity. -/
theorem le_finite_iff {b : Double} {c : Rat} :
    b.le (finite c) = true ↔ b = infinite true ∨ ∃ p, b.value? = some p ∧ p ≤ c := by
  cases b with
  | nan => simp [le, value?]
  | infinite negative => simp [le, value?]
  | minusZero =>
      simp only [le, value?, reduceCtorEq, false_or, Option.some.injEq, exists_eq_left']
      exact decide_eq_true_iff
  | finite p =>
      simp only [le, value?, reduceCtorEq, false_or, Option.some.injEq, exists_eq_left']
      exact decide_eq_true_iff

/-- What is at least a bound is a number with such a value, or infinity. -/
theorem finite_le_iff {b : Double} {c : Rat} :
    (finite c).le b = true ↔ b = infinite false ∨ ∃ p, b.value? = some p ∧ c ≤ p := by
  cases b with
  | nan => simp [le, value?]
  | infinite negative => simp [le, value?]
  | minusZero =>
      simp only [le, value?, reduceCtorEq, false_or, Option.some.injEq, exists_eq_left']
      exact decide_eq_true_iff
  | finite p =>
      simp only [le, value?, reduceCtorEq, false_or, Option.some.injEq, exists_eq_left']
      exact decide_eq_true_iff

theorem le_finite_trans {b : Double} {c d : Rat} (h : b.le (finite c) = true) (hcd : c ≤ d) :
    b.le (finite d) = true := by
  rw [le_finite_iff] at h ⊢
  rcases h with hinfinite | ⟨p, hp, hle⟩
  · exact Or.inl hinfinite
  · exact Or.inr ⟨p, hp, hle.trans hcd⟩

/-- What is left of a number after two were taken off it. -/
theorem sub_two_cases {b : Double} {p : Rat} (hb : b.value? = some p) :
    b.sub 2 = round (p - 2) := by
  cases b with
  | nan => cases hb
  | infinite negative => cases hb
  | minusZero =>
      cases hb
      decide +kernel
  | finite q =>
      cases hb
      exact finite_sub_two p

theorem infinite_sub_two (negative : Bool) : (infinite negative).sub 2 = infinite negative := by
  rw [two_eq]
  rfl

/-- Positive numbers of this size are in range. -/
theorem value?_round_of_pos {q : Rat} (hq : 0 < q) (hle : q ≤ (2 : Rat) ^ (55 : Int)) :
    (round q).value? = some (rounded q) := by
  apply value?_round
  rw [abs_of_pos hq]
  exact lt_of_le_of_lt hle (zpow_lt_zpow_right₀ (by norm_num) (by norm_num))

/-- Two less than what is at most a bound is at most two less than the bound, rounded. -/
theorem sub_two_le {b : Double} {c : Rat} (hc : 2 ≤ c) (hrange : c ≤ (2 : Rat) ^ (55 : Int))
    (h : b.le (finite c) = true) : (b.sub 2).le (finite (rounded (c - 2))) = true := by
  have hbound := rounded_nonneg (q := c - 2) (by linarith)
  rcases le_finite_iff.mp h with rfl | ⟨p, hp, hle⟩
  · rw [infinite_sub_two]
    rfl
  rw [sub_two_cases hp]
  rcases le_or_gt p 2 with hused | hleft
  · have hzero := round_le_zero (q := p - 2) (by linarith)
    rw [zero_eq] at hzero
    exact le_finite_trans hzero hbound
  · have hvalue : (round (p - 2)).value? = some (rounded (p - 2)) :=
      value?_round_of_pos (by linarith) (by linarith)
    refine le_finite_iff.mpr (Or.inr ⟨_, hvalue, ?_⟩)
    exact rounded_mono (by linarith) (by linarith)

/-- Once nothing is left, the next step leaves less than nothing. -/
theorem not_zero_le_sub_two {b : Double} (h : b.le 0 = true) : Double.le 0 (b.sub 2) = false := by
  rw [zero_eq] at h
  rcases le_finite_iff.mp h with rfl | ⟨p, hp, hle⟩
  · rw [infinite_sub_two]
    rfl
  · rw [sub_two_cases hp]
    exact not_zero_le_round (by linarith)

/-- Once nothing is left, nothing will be left. -/
theorem sub_two_le_zero_of_le_zero {b : Double} (h : b.le 0 = true) : (b.sub 2).le 0 = true := by
  rw [zero_eq] at h
  rcases le_finite_iff.mp h with rfl | ⟨p, hp, hle⟩
  · rw [infinite_sub_two]
    rfl
  · rw [sub_two_cases hp]
    exact round_le_zero (by linarith)

/-! ## Even numbers up to two to the power of 54 -/

/-- Doubling keeps the digits of a number. -/
theorem rounded_two_mul {q : Rat} (hq : 1 ≤ q) : rounded (2 * q) = 2 * rounded q := by
  have hpos : 0 < q := by linarith
  have htwice : 0 < 2 * q := by linarith
  obtain ⟨hlow, hhigh⟩ := zpow_magnitude hpos.ne'
  rw [abs_of_pos hpos] at hlow hhigh
  have hnonneg : 0 ≤ magnitude q :=
    le_magnitude hpos.ne' (by rw [abs_of_pos hpos, zpow_zero]; exact hq)
  have hdouble (k : Int) : (2 : Rat) ^ (k + 1) = 2 * (2 : Rat) ^ k := by
    rw [zpow_add_one₀ (by norm_num), mul_comm]
  have hmagnitude : magnitude (2 * q) = magnitude q + 1 := by
    have hle : magnitude q + 1 ≤ magnitude (2 * q) :=
      le_magnitude htwice.ne' (by rw [abs_of_pos htwice, hdouble]; linarith)
    have hlt : magnitude (2 * q) < magnitude q + 1 + 1 :=
      magnitude_lt htwice.ne' (by rw [abs_of_pos htwice, hdouble]; linarith)
    omega
  have hunit : unitExponent (2 * q) = unitExponent q + 1 := by
    unfold unitExponent
    omega
  have hdiv : 2 * q / (2 * (2 : Rat) ^ unitExponent q) = q / (2 : Rat) ^ unitExponent q :=
    mul_div_mul_left _ _ (by norm_num)
  rw [rounded, hunit, hdouble, hdiv, rounded]
  ring

/-- Even numbers up to `2 ^ 54` are not moved. -/
theorem rounded_two_mul_natCast {m : Nat} (hm : m ≤ wholeLimit) :
    rounded (2 * (m : Rat)) = 2 * (m : Rat) := by
  rcases Nat.eq_zero_or_pos m with rfl | hpos
  · exact rounded_eq_self (m := 0) (by simp)
  · have hone : (1 : Rat) ≤ (m : Rat) := by exact_mod_cast hpos
    have hfixed : rounded (m : Rat) = m := by
      exact_mod_cast rounded_intCast (n := (m : Int)) (by simpa using hm)
    rw [rounded_two_mul hone, hfixed]

/-! ## Above two to the power of 54 -/

/-- The least number that a difference of two does not make smaller: `2 ^ 54 + 8`. -/
def leastUnspent : Rat := 18014398509481992

/-- From `2 ^ 54` to `2 ^ 55` numbers are multiples of four. -/
theorem rounded_of_large {q : Rat} (hlow : 18014398509481984 ≤ q) (hhigh : q < 36028797018963968) :
    rounded q = (nearestEven (q / 4) : Rat) * 4 := by
  have hpos : (0 : Rat) < q := by linarith
  have hmagnitude : magnitude q = 54 := by
    have hle : 54 ≤ magnitude q :=
      le_magnitude hpos.ne' (by rw [abs_of_pos hpos]; norm_num; linarith)
    have hlt : magnitude q < 55 :=
      magnitude_lt hpos.ne' (by rw [abs_of_pos hpos]; norm_num; linarith)
    omega
  have hunit : unitExponent q = 2 := by
    rw [unitExponent, hmagnitude]
    rfl
  have hfour : (2 : Rat) ^ (2 : Int) = 4 := by norm_num
  rw [rounded, hunit, hfour]

/-- Two below the least unspent number is halfway between two multiples of four, and the greater one
is the even multiple. -/
theorem rounded_leastUnspent_sub_two : rounded (leastUnspent - 2) = leastUnspent := by
  have htie : nearestEven ((leastUnspent - 2) / 4) = 4503599627370498 := by decide +kernel
  rw [rounded_of_large (by norm_num [leastUnspent]) (by norm_num [leastUnspent]), htie]
  norm_num [leastUnspent]

/-- From the least unspent number on, two seconds are given back by rounding. -/
theorem leastUnspent_le_sub_two {b : Double} (h : (finite leastUnspent).le b = true) :
    (finite leastUnspent).le (b.sub 2) = true := by
  rcases finite_le_iff.mp h with rfl | ⟨p, hp, hle⟩
  · rw [infinite_sub_two]
    rfl
  have hmono := rounded_mono (p := leastUnspent - 2) (q := p - 2) (by norm_num [leastUnspent])
    (by linarith)
  rw [rounded_leastUnspent_sub_two] at hmono
  rw [sub_two_cases hp]
  rcases round_cases (p - 2) with hvalue | ⟨hinfinite, -⟩ | ⟨-, hlow⟩
  · exact finite_le_iff.mpr (Or.inr ⟨_, hvalue, hmono⟩)
  · exact finite_le_iff.mpr (Or.inl hinfinite)
  · have hpos : (0 : Rat) < (2 : Rat) ^ (1024 : Int) := by positivity
    have hnonneg : (0 : Rat) ≤ leastUnspent := by norm_num [leastUnspent]
    exact absurd (hmono.trans hlow) (not_le.mpr ((neg_lt_zero.mpr hpos).trans_le hnonneg))

/-- What is below the least unspent number loses something with the first step. -/
theorem sub_two_le_of_spendable {b : Double} (hnumber : b ≠ nan)
    (h : (finite leastUnspent).le b = false) :
    (b.sub 2).le (finite 18014398509481988) = true := by
  have hcases : b = infinite true ∨ ∃ p, b.value? = some p ∧ p < leastUnspent := by
    have hnot : ¬ (b = infinite false ∨ ∃ p, b.value? = some p ∧ leastUnspent ≤ p) := by
      rw [← finite_le_iff, h]
      exact Bool.false_ne_true
    rw [not_or] at hnot
    cases b with
    | nan => exact absurd rfl hnumber
    | infinite negative =>
        cases negative with
        | false => exact absurd rfl hnot.1
        | true => exact Or.inl rfl
    | minusZero => exact Or.inr ⟨0, rfl, by norm_num [leastUnspent]⟩
    | finite p => exact Or.inr ⟨p, rfl, not_le.mp fun hle => hnot.2 ⟨p, rfl, hle⟩⟩
  rcases hcases with rfl | ⟨p, hp, hlt⟩
  · rw [infinite_sub_two]
    rfl
  rcases le_or_gt p 18014398509481986 with hsmall | hlarge
  · have hstep := sub_two_le (by norm_num) (by norm_num)
      (le_finite_iff.mpr (Or.inr ⟨p, hp, hsmall⟩))
    have htop := rounded_two_mul_natCast (m := 9007199254740992) le_rfl
    norm_num at htop hstep
    rw [htop] at hstep
    exact le_finite_trans hstep (by norm_num)
  · norm_num [leastUnspent] at hlt
    have hvalue : (round (p - 2)).value? = some (rounded (p - 2)) :=
      value?_round_of_pos (by linarith) (by norm_num; linarith)
    rw [sub_two_cases hp, le_finite_iff]
    refine Or.inr ⟨_, hvalue, ?_⟩
    -- less than one and a half multiples of four above `2 ^ 54`
    have hnear := (abs_le.mp (abs_nearestEven_sub_le ((p - 2) / 4))).2
    have hbelow : (nearestEven ((p - 2) / 4) : Rat) < ((4503599627370498 : Int) : Rat) := by
      push_cast
      linarith
    have hwhole : nearestEven ((p - 2) / 4) ≤ 4503599627370497 := by
      have := Int.cast_lt.mp hbelow
      omega
    have hcast : (nearestEven ((p - 2) / 4) : Rat) ≤ 4503599627370497 := by
      exact_mod_cast hwhole
    rw [rounded_of_large (by linarith) (by linarith)]
    linarith

/-- The next step leads down to `2 ^ 54`: the lower neighbour is the even multiple. -/
theorem rounded_next : rounded (18014398509481988 - 2) = 18014398509481984 := by
  have htie : nearestEven ((18014398509481988 - 2) / 4 : Rat) = 4503599627370496 := by
    decide +kernel
  rw [rounded_of_large (by norm_num) (by norm_num), htie]
  norm_num

/-! ## The whole way down -/

/-- What is left of a budget after so many steps. -/
def spent (b : Double) (n : Nat) : Double :=
  (fun left => left.sub 2)^[n] b

@[simp]
theorem spent_zero (b : Double) : spent b 0 = b := rfl

theorem spent_succ (b : Double) (n : Nat) : spent b (n + 1) = (spent b n).sub 2 :=
  Function.iterate_succ_apply' _ _ _

/-- A budget that is not unspendable goes down by two a step, from `2 ^ 54` after the second one. -/
theorem spent_le {b : Double} (hnumber : b ≠ nan) (h : (finite leastUnspent).le b = false) {n : Nat}
    (hn : n ≤ wholeLimit) :
    (spent b (n + 2)).le (finite (2 * ((wholeLimit - n : Nat) : Rat))) = true := by
  induction n with
  | zero =>
      have hfirst := sub_two_le_of_spendable hnumber h
      have hsecond := sub_two_le (by norm_num) (by norm_num) hfirst
      rw [rounded_next] at hsecond
      rw [spent_succ, spent_succ, spent_zero]
      norm_num [wholeLimit]
      exact hsecond
  | succ n ih =>
      have hleft : wholeLimit - n = wholeLimit - (n + 1) + 1 := by omega
      have hcast : 2 * ((wholeLimit - n : Nat) : Rat) - 2 =
          2 * ((wholeLimit - (n + 1) : Nat) : Rat) := by
        rw [hleft]
        push_cast
        ring
      have hrange : ((wholeLimit - n : Nat) : Rat) ≤ 9007199254740992 := by
        exact_mod_cast Nat.sub_le wholeLimit n
      have hstep := sub_two_le (by rw [hleft]; push_cast; linarith) (by norm_num; linarith)
        (ih (by omega))
      rw [hcast, rounded_two_mul_natCast (by omega)] at hstep
      rwa [show n + 1 + 2 = n + 2 + 1 by omega, spent_succ]

/-- After so many steps nothing is left of a budget that can be spent. -/
theorem spent_le_zero {b : Double} (hnumber : b ≠ nan) (h : (finite leastUnspent).le b = false) :
    (spent b (wholeLimit + 2)).le 0 = true := by
  have hlast := spent_le hnumber h le_rfl
  rw [Nat.sub_self, Nat.cast_zero, mul_zero] at hlast
  rwa [zero_eq]

/-- A budget from the least unspent number on is never spent. -/
theorem leastUnspent_le_spent {b : Double} (h : (finite leastUnspent).le b = true) (n : Nat) :
    (finite leastUnspent).le (spent b n) = true := by
  induction n with
  | zero => exact h
  | succ n ih =>
      rw [spent_succ]
      exact leastUnspent_le_sub_two ih

theorem spent_nan (n : Nat) : spent nan n = nan := by
  induction n with
  | zero => rfl
  | succ n ih =>
      rw [spent_succ, ih]
      rfl

/-- What is at least the least unspent number is positive. -/
theorem pos_of_leastUnspent_le {b : Double} (h : (finite leastUnspent).le b = true) :
    b.le 0 = false ∧ Double.le 0 b = true := by
  have hpos : (0 : Rat) < leastUnspent := by norm_num [leastUnspent]
  rcases finite_le_iff.mp h with rfl | ⟨p, hp, hle⟩
  · exact ⟨rfl, rfl⟩
  · have hzero : (0 : Double).value? = some ((0 : Nat) : Rat) := value?_ofNat 0 (by decide)
    rw [le_of_value? hp hzero, le_of_value? hzero hp]
    constructor
    · exact decide_eq_false (by push_cast; linarith)
    · exact decide_eq_true (by push_cast; linarith)

end PodReach.Double
