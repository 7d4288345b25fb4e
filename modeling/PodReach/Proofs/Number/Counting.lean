import PodReach.Proofs.Number.Order
import PodReach.Proofs.Number.Rounding

/-!
# Counting seconds

A clock that is advanced second by second, and a budget that is counted down in twos. The budget
is exact as long as it is a small whole number. The clock need not be: it may start anywhere, so
its steps are rounded, but it never runs backwards and stays close enough to the true time to
tell 59 seconds from 61.
-/

namespace PodReach.Double

/-! ## Sums by value -/

theorem value?_ofInt {n : Int} (hn : n.natAbs ≤ wholeLimit) :
    (ofInt n).value? = some (n : Rat) := by
  rw [ofInt_eq_finite hn]
  rfl

theorem value?_ofNat (n : Nat) (hn : n ≤ wholeLimit) :
    (OfNat.ofNat n : Double).value? = some (n : Rat) :=
  value?_ofInt (n := (n : Int)) hn

/-- Adding a number that needs no rounding itself rounds the sum once. -/
theorem value?_add {a : Double} {p q : Rat} (ha : a.value? = some p) (hq : rounded q = q)
    (hlt : |p + q| < (2 : Rat) ^ (1000 : Int)) :
    (a.add (finite q)).value? = some (rounded (p + q)) := by
  cases a with
  | nan => cases ha
  | infinite negative => cases ha
  | minusZero =>
      cases ha
      rw [zero_add, hq]
      rfl
  | finite p' =>
      cases ha
      exact value?_round hlt

/-- A difference is exact when a zero is involved, and is rounded once otherwise. -/
theorem value?_sub_cases {a b : Double} {p q : Rat} (ha : a.value? = some p)
    (hb : b.value? = some q) :
    (a.sub b).value? = some (p - q) ∨ a.sub b = round (p - q) := by
  cases a with
  | nan => cases ha
  | infinite negative => cases ha
  | minusZero =>
      cases ha
      left
      cases b <;> simp_all [value?, sub, neg, add]
      split_ifs <;> simp_all
  | finite p' =>
      cases ha
      cases b with
      | nan => cases hb
      | infinite negative => cases hb
      | minusZero =>
          cases hb
          right
          rw [show p - 0 = p + 0 by ring]
          rfl
      | finite q' =>
          cases hb
          by_cases hq : q = 0
          · left
            subst hq
            rw [sub_zero]
            rfl
          · right
            rw [sub_eq_add_neg]
            simp only [sub, neg, if_neg hq, add]

/-- A difference of magnitude below `2 ^ e` is off by at most `2 ^ (e - 54)`. -/
theorem value?_sub {a b : Double} {p q : Rat} {e : Int} (ha : a.value? = some p)
    (hb : b.value? = some q) (hlow : -1020 ≤ e) (hhigh : e ≤ 1000)
    (hlt : |p - q| < (2 : Rat) ^ e) :
    ∃ v, (a.sub b).value? = some v ∧ |v - (p - q)| ≤ (2 : Rat) ^ (e - 54) := by
  rcases value?_sub_cases ha hb with hexact | hround
  · refine ⟨p - q, hexact, ?_⟩
    rw [sub_self, abs_zero]
    positivity
  · have hrange : |p - q| < (2 : Rat) ^ (1000 : Int) :=
      lt_of_lt_of_le hlt (zpow_le_zpow_right₀ (by norm_num) hhigh)
    exact ⟨rounded (p - q), hround ▸ value?_round hrange, abs_rounded_sub_le hlow hlt⟩

/-! ## A budget counted down in twos -/

/-- Two off a small whole number is exact as long as the result is small as well. -/
theorem value?_sub_two {a : Double} {n : Int} (ha : a.value? = some (n : Rat))
    (hsmall : (n - 2).natAbs ≤ wholeLimit) : (a.sub 2).value? = some ((n - 2 : Int) : Rat) := by
  have htwo : (2 : Double).value? = some ((2 : Int) : Rat) := value?_ofNat 2 (by decide)
  have hdiff : (n : Rat) - ((2 : Int) : Rat) = ((n - 2 : Int) : Rat) := by push_cast; ring
  rcases value?_sub_cases ha htwo with hexact | hround
  · rw [hexact, hdiff]
  · rw [hround, hdiff]
    exact value?_ofInt hsmall

/-- Two off a number that is at most two leaves nothing. -/
theorem sub_two_le_zero {a : Double} {n : Int} (ha : a.value? = some (n : Rat)) (hle : n ≤ 2)
    (hsmall : n.natAbs ≤ wholeLimit) : (a.sub 2).le 0 = true := by
  have hzero : (0 : Double).value? = some ((0 : Nat) : Rat) := value?_ofNat 0 (by decide)
  by_cases hlimit : (n - 2).natAbs ≤ wholeLimit
  · rw [le_of_value? (value?_sub_two ha hlimit) hzero]
    simpa using (by exact_mod_cast (by omega) : ((n - 2 : Int) : Rat) ≤ 0)
  · -- just below the range of exact numbers the error is far too small to matter
    have htwo : (2 : Double).value? = some ((2 : Nat) : Rat) := value?_ofNat 2 (by decide)
    have hn : -(wholeLimit : Int) ≤ n ∧ n < 2 - (wholeLimit : Int) := by
      unfold wholeLimit at hsmall hlimit ⊢
      omega
    have hnRat : -(wholeLimit : Rat) ≤ (n : Rat) ∧ (n : Rat) < 2 - (wholeLimit : Rat) := by
      exact_mod_cast hn
    norm_num [wholeLimit] at hnRat
    obtain ⟨v, hv, herror⟩ := value?_sub (e := 54) ha htwo (by norm_num) (by norm_num)
      (by rw [abs_lt]; constructor <;> norm_num <;> linarith)
    rw [le_of_value? hv hzero]
    have hclose := (abs_le.mp herror).2
    norm_num at hclose
    exact decide_eq_true (by linarith)

/-! ## A clock advanced by seconds -/

/-- What a clock shows that starts at `start` and is advanced by a second `n` times. -/
def ticked (start : Rat) : Nat → Rat
  | 0 => start
  | n + 1 => rounded (ticked start n + 1)

private theorem rounded_limit_succ : rounded ((wholeLimit : Rat) + 1) = wholeLimit := by
  have hpos : (0 : Rat) < (wholeLimit : Rat) + 1 := by positivity
  have habs : |(wholeLimit : Rat) + 1| = (wholeLimit : Rat) + 1 := abs_of_pos hpos
  have hlow : 53 ≤ magnitude ((wholeLimit : Rat) + 1) :=
    le_magnitude hpos.ne' (by rw [habs]; norm_num [wholeLimit])
  have hhigh : magnitude ((wholeLimit : Rat) + 1) < 54 :=
    magnitude_lt hpos.ne' (by rw [habs]; norm_num [wholeLimit])
  have hunit : unitExponent ((wholeLimit : Rat) + 1) = 1 := by
    unfold unitExponent
    omega
  -- halfway between two multiples of two, and the lower one is the even multiple
  have htie : nearestEven (((wholeLimit : Rat) + 1) / 2) = 4503599627370496 := by
    decide +kernel
  rw [rounded, hunit, zpow_one, htie]
  norm_num [wholeLimit]

section Clock

variable {start : Rat} (hstart : 0 ≤ start) (hearly : start ≤ (2 : Rat) ^ (46 : Int))

include hstart hearly

/-- The clock never runs backwards, and stops at the end of the exact whole numbers. -/
theorem ticked_le_succ (n : Nat) :
    0 ≤ ticked start n ∧ ticked start n ≤ wholeLimit ∧ ticked start n ≤ ticked start (n + 1) := by
  have forward : ∀ c : Rat, 0 ≤ c → c ≤ wholeLimit → c ≤ rounded (c + 1) := by
    intro c hc hlimit
    norm_num [wholeLimit] at hlimit
    have hmove := abs_rounded_sub_le (q := c + 1) (e := 54) (by norm_num)
      (by rw [abs_of_nonneg (by linarith)]; norm_num; linarith)
    have hback := (abs_le.mp hmove).1
    norm_num at hback
    linarith
  induction n with
  | zero =>
      have hlimit : start ≤ wholeLimit := le_trans hearly (by norm_num [wholeLimit])
      exact ⟨hstart, hlimit, forward start hstart hlimit⟩
  | succ n ih =>
      obtain ⟨hzero, hlimit, hnext⟩ := ih
      have hcap : ticked start (n + 1) ≤ wholeLimit := by
        calc rounded (ticked start n + 1) ≤ rounded ((wholeLimit : Rat) + 1) :=
              rounded_mono (by linarith) (by linarith)
          _ = wholeLimit := rounded_limit_succ
      have hzero' : 0 ≤ ticked start (n + 1) := le_trans hzero hnext
      exact ⟨hzero', hcap, forward _ hzero' hcap⟩

/-- Advancing a clock by a second makes it show the next reading. -/
theorem value?_add_one {clock : Double} {n : Nat} (h : clock.value? = some (ticked start n)) :
    (clock.add 1).value? = some (ticked start (n + 1)) := by
  obtain ⟨hzero, hlimit, -⟩ := ticked_le_succ hstart hearly n
  have hone : rounded 1 = 1 := by exact_mod_cast rounded_intCast (n := 1) (by decide)
  have hsmall : |ticked start n + 1| < (2 : Rat) ^ (54 : Int) := by
    norm_num [wholeLimit] at hlimit
    rw [abs_of_nonneg (by linarith)]
    norm_num
    linarith
  have hadd := value?_add h hone
    (lt_of_lt_of_le hsmall (zpow_le_zpow_right₀ (by norm_num) (by norm_num)))
  have hliteral : (1 : Double) = finite 1 := ofInt_eq_finite (n := 1) (by decide)
  rw [hliteral]
  exact hadd

/-- For a minute and more the clock is less than half a second away from the true time. -/
theorem abs_ticked_sub_le (n : Nat) (hn : n ≤ 64) :
    |ticked start n - (start + n)| ≤ n / 128 := by
  norm_num at hearly
  induction n with
  | zero => simp [ticked]
  | succ n ih =>
      have hprev := abs_le.mp (ih (by omega))
      have hzero := (ticked_le_succ hstart (by norm_num; exact hearly) n).1
      have hcount : (n : Rat) ≤ 64 := by exact_mod_cast (by omega : n ≤ 64)
      have hmove := abs_le.mp (abs_rounded_sub_le (q := ticked start n + 1) (e := 47)
        (by norm_num) (by rw [abs_of_nonneg (by linarith)]; norm_num; linarith))
      norm_num at hmove
      rw [abs_le]
      unfold ticked
      push_cast
      constructor <;> linarith

/-- A minute has passed after 61 seconds and not after 59, whatever the rounding. -/
theorem minute_lt_elapsed {now begun : Double} {n : Nat}
    (hnow : now.value? = some (ticked start n)) (hbegun : begun.value? = some start)
    (hn : n ≠ 60) : Double.lt 60 (now.sub begun) = decide (61 ≤ n) := by
  have hminute : (60 : Double).value? = some ((60 : Nat) : Rat) := value?_ofNat 60 (by decide)
  obtain ⟨hzero, hlimit, -⟩ := ticked_le_succ hstart hearly n
  rcases Nat.lt_or_ge n 60 with hbefore | hafter
  · have hclose := abs_le.mp (abs_ticked_sub_le hstart hearly n (by omega))
    have hcount : (n : Rat) ≤ 59 := by exact_mod_cast (by omega : n ≤ 59)
    have hcount' : (0 : Rat) ≤ n := by positivity
    obtain ⟨v, hv, herror⟩ := value?_sub (e := 7) hnow hbegun (by norm_num) (by norm_num)
      (by rw [abs_lt]; constructor <;> norm_num <;> linarith)
    have herror' := (abs_le.mp herror).2
    norm_num at herror'
    rw [lt_of_value? hminute hv, decide_eq_false (by omega : ¬ 61 ≤ n)]
    exact decide_eq_false (by push_cast; linarith)
  · have hmono : ticked start 61 ≤ ticked start n :=
      monotone_nat_of_le_succ (fun k => (ticked_le_succ hstart hearly k).2.2) (by omega)
    have hclose := (abs_le.mp (abs_ticked_sub_le hstart hearly 61 (by norm_num))).1
    have hlong : 60 + 1 / 2 ≤ ticked start n - start := by
      norm_num at hclose
      linarith
    norm_num [wholeLimit] at hlimit
    rw [decide_eq_true (by omega : 61 ≤ n)]
    -- the error of the difference grows with it, but stays behind it
    by_cases hshort : ticked start n - start < (2 : Rat) ^ (7 : Int)
    · obtain ⟨v, hv, herror⟩ := value?_sub (e := 7) hnow hbegun (by norm_num) (by norm_num)
        (by rw [abs_of_nonneg (by linarith)]; exact hshort)
      have herror' := (abs_le.mp herror).1
      norm_num at herror'
      rw [lt_of_value? hminute hv]
      exact decide_eq_true (by push_cast; linarith)
    · obtain ⟨v, hv, herror⟩ := value?_sub (e := 54) hnow hbegun (by norm_num) (by norm_num)
        (by rw [abs_of_nonneg (by linarith)]; norm_num; linarith)
      have herror' := (abs_le.mp herror).1
      norm_num at herror' hshort
      rw [lt_of_value? hminute hv]
      exact decide_eq_true (by push_cast; linarith)

end Clock

end PodReach.Double
