import Mathlib.Algebra.Order.Ring.Rat
import Mathlib.Order.WithBot
import PodReach.Number.Double

/-!
# The order of binary64 numbers

Finite numbers are compared by their values. With the infinities at either end, and apart from
what is no number, comparisons are comparisons of ranks in one linear order.
-/

namespace PodReach.Double

theorem le_of_value? {a b : Double} {p q : Rat} (ha : a.value? = some p)
    (hb : b.value? = some q) : a.le b = decide (p ≤ q) := by
  cases a <;> cases b <;> simp_all [value?, le]

theorem lt_of_value? {a b : Double} {p q : Rat} (ha : a.value? = some p)
    (hb : b.value? = some q) : a.lt b = decide (p < q) := by
  cases a <;> cases b <;> simp_all [value?, lt]

/-- The place of a number between the two infinities. -/
def rank : Double → WithBot (WithTop Rat)
  | nan => ⊥
  | infinite true => ⊥
  | infinite false => ⊤
  | minusZero => (((0 : Rat) : WithTop Rat) : WithBot (WithTop Rat))
  | finite q => ((q : WithTop Rat) : WithBot (WithTop Rat))

theorem rank_of_value? {a : Double} {p : Rat} (ha : a.value? = some p) :
    a.rank = ((p : WithTop Rat) : WithBot (WithTop Rat)) := by
  cases a <;> simp_all [value?, rank]

private theorem value?_or_infinite {a : Double} (ha : a ≠ nan) :
    (∃ p, a.value? = some p) ∨ ∃ negative, a = infinite negative := by
  cases a with
  | nan => exact absurd rfl ha
  | infinite negative => exact Or.inr ⟨negative, rfl⟩
  | minusZero => exact Or.inl ⟨0, rfl⟩
  | finite q => exact Or.inl ⟨q, rfl⟩

/-- A comparison of numbers is one of their ranks. -/
theorem le_iff_rank {a b : Double} (ha : a ≠ nan) (hb : b ≠ nan) :
    a.le b = true ↔ a.rank ≤ b.rank := by
  rcases value?_or_infinite ha with ⟨p, hp⟩ | ⟨_ | _, rfl⟩ <;>
    rcases value?_or_infinite hb with ⟨q, hq⟩ | ⟨_ | _, rfl⟩
  · rw [le_of_value? hp hq, rank_of_value? hp, rank_of_value? hq]
    simp
  · cases a <;> simp_all [le, rank, value?]
  · cases a <;> simp_all [le, rank, value?]
  · cases b <;> simp_all [le, rank, value?]
  · simp [le, rank]
  · simp [le, rank]
  · cases b <;> simp_all [le, rank, value?]
  · simp [le, rank]
  · simp [le, rank]

/-- Among numbers, smaller means not at least as large. -/
theorem lt_eq_not_le {a b : Double} (ha : a ≠ nan) (hb : b ≠ nan) : a.lt b = !b.le a := by
  rcases value?_or_infinite ha with ⟨p, hp⟩ | ⟨_ | _, rfl⟩ <;>
    rcases value?_or_infinite hb with ⟨q, hq⟩ | ⟨_ | _, rfl⟩
  · rw [lt_of_value? hp hq, le_of_value? hq hp, ← decide_not]
    simp
  · cases a <;> simp_all [lt, le, value?]
  · cases a <;> simp_all [lt, le, value?]
  · cases b <;> simp_all [lt, le, value?]
  · rfl
  · rfl
  · cases b <;> simp_all [lt, le, value?]
  · rfl
  · rfl

theorem lt_iff_rank {a b : Double} (ha : a ≠ nan) (hb : b ≠ nan) :
    a.lt b = true ↔ a.rank < b.rank := by
  have hle := le_iff_rank hb ha
  rw [lt_eq_not_le ha hb, ← not_le, ← hle]
  simp

/-- Rounding always yields a number. -/
theorem round_ne_nan (q : Rat) : round q ≠ nan := by
  have hzero : ∀ negative, zero negative ≠ nan := by
    intro negative
    cases negative <;> simp [zero]
  unfold round
  split_ifs
  · simp
  · simp only [roundGeneral]
    split_ifs <;> simp [hzero]

end PodReach.Double
