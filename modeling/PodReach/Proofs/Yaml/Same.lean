import PodReach.Proofs.Number.Order
import PodReach.Yaml.Value

/-!
# Values that are the same

Two values that are the same as a third one are the same. Numbers, truth values among them, are
compared by what they stand for; everything else is compared part by part.
-/

namespace PodReach

namespace Double

/-- Equal numbers have the same place. -/
theorem eq_iff_rank {a b : Double} : a.eq b = true ↔ a ≠ nan ∧ b ≠ nan ∧ a.rank = b.rank := by
  by_cases ha : a = nan
  · subst ha
    simp [eq, le]
  · by_cases hb : b = nan
    · subst hb
      cases a <;> simp [eq, le]
    · rw [eq, Bool.and_eq_true, le_iff_rank ha hb, le_iff_rank hb ha]
      simp [ha, hb, le_antisymm_iff]

/-- The place of a rational between the two infinities. -/
def place (q : Rat) : WithBot (WithTop Rat) :=
  ((q : WithTop Rat) : WithBot (WithTop Rat))

theorem place_inj {p q : Rat} : place p = place q ↔ p = q :=
  WithBot.coe_inj.trans WithTop.coe_inj

/-- A number has the place of a rational if that is its value. -/
theorem value?_eq_some_iff {a : Double} {q : Rat} :
    a.value? = some q ↔ a ≠ nan ∧ a.rank = place q := by
  constructor
  · intro h
    refine ⟨?_, rank_of_value? h⟩
    rintro rfl
    cases h
  · rintro ⟨hne, hrank⟩
    cases a with
    | nan => exact absurd rfl hne
    | infinite negative => cases negative <;> simp [rank, place] at hrank
    | minusZero => exact congrArg some (place_inj.mp hrank)
    | finite p => exact congrArg some (place_inj.mp hrank)

end Double

namespace Yaml

open Double

/-! ## Numbers -/

/-- Whether a value is a number or a truth value. -/
def isNumeric : Yaml → Bool
  | bool _ | integer _ | number _ => true
  | _ => false

/-- The place of what a number or a truth value stands for, if it stands for anything. -/
def rank? : Yaml → Option (WithBot (WithTop Rat))
  | bool value => some (place (if value then 1 else 0))
  | integer n => some (place n)
  | number x => if x = .nan then none else some x.rank
  | _ => none

theorem rank?_number {x : Double} {r : WithBot (WithTop Rat)} :
    (number x).rank? = some r ↔ x ≠ .nan ∧ x.rank = r := by
  by_cases hx : x = .nan <;> simp [rank?, hx]

theorem isNumeric_eq_of_same {a b : Yaml} (h : same a b = true) : a.isNumeric = b.isNumeric := by
  cases a <;> cases b <;> simp_all [same, isNumeric]

/-- Numbers are the same as what stands for the same. -/
theorem same_iff_rank {a b : Yaml} (ha : a.isNumeric = true) (hb : b.isNumeric = true) :
    same a b = true ↔ ∃ r, b.rank? = some r ∧ a.rank? = some r := by
  cases a with
  | bool p =>
      cases b with
      | bool q => cases p <;> cases q <;> simp [same, rank?, place_inj]
      | integer n => cases p <;> simp [same, rank?, place_inj] <;> norm_cast
      | number x => simp [same, rank?, value?_eq_some_iff]
      | _ => cases hb
  | integer m =>
      cases b with
      | bool q => cases q <;> simp [same, rank?, place_inj] <;> exact eq_comm
      | integer n => simp [same, rank?, place_inj]
      | number x => simp [same, rank?, value?_eq_some_iff]
      | _ => cases hb
  | number x =>
      cases b with
      | bool q => simp [same, rank?, value?_eq_some_iff]
      | integer n => simp [same, rank?, value?_eq_some_iff]
      | number y => simp [same, rank?_number, eq_iff_rank, and_left_comm, and_assoc]
      | _ => cases hb
  | _ => cases ha

/-- Numbers that are the same as a third one are the same. -/
theorem same_trans_of_isNumeric {a b c : Yaml} (ha : a.isNumeric = true) (hab : same a b = true)
    (hbc : same b c = true) : same a c = true := by
  have hb : b.isNumeric = true := (isNumeric_eq_of_same hab).symm.trans ha
  have hc : c.isNumeric = true := (isNumeric_eq_of_same hbc).symm.trans hb
  obtain ⟨r, hbr, har⟩ := (same_iff_rank ha hb).mp hab
  obtain ⟨s, hcs, hbs⟩ := (same_iff_rank hb hc).mp hbc
  obtain rfl : r = s := Option.some.inj (hbr.symm.trans hbs)
  exact (same_iff_rank ha hc).mpr ⟨r, hcs, har⟩

/-! ## Everything else -/

mutual

/-- What is the same as a third value is the same. -/
theorem same_trans {a b c : Yaml} (hab : same a b = true) (hbc : same b c = true) :
    same a c = true := by
  match a with
  | bool _ | integer _ | number _ => exact same_trans_of_isNumeric rfl hab hbc
  | null | text _ | bytes _ | date _ | moment _ =>
      cases b <;> cases c <;> simp_all [same, Moment.same]
  | list xs | set xs =>
      cases b <;> cases c <;> simp only [same, Bool.false_eq_true] at hab hbc ⊢
      exact sameItems_trans hab hbc
  | pair k v =>
      cases b <;> cases c <;> simp only [same, Bool.and_eq_true, Bool.false_eq_true] at hab hbc ⊢
      exact ⟨same_trans hab.1 hbc.1, same_trans hab.2 hbc.2⟩
  | map xs =>
      cases b <;> cases c <;> simp only [same, Bool.false_eq_true] at hab hbc ⊢
      exact sameEntries_trans hab hbc
  | loop _ => cases b <;> cases hab

theorem sameItems_trans {xs ys zs : List Yaml} (hab : sameItems xs ys = true)
    (hbc : sameItems ys zs = true) : sameItems xs zs = true := by
  match xs, ys, zs with
  | [], [], [] => rfl
  | x :: xs, y :: ys, z :: zs =>
      simp only [sameItems, Bool.and_eq_true] at hab hbc ⊢
      exact ⟨same_trans hab.1 hbc.1, sameItems_trans hab.2 hbc.2⟩

theorem sameEntries_trans {xs ys zs : List (Yaml × Yaml)} (hab : sameEntries xs ys = true)
    (hbc : sameEntries ys zs = true) : sameEntries xs zs = true := by
  match xs, ys, zs with
  | [], [], [] => rfl
  | (k, v) :: xs, (l, w) :: ys, (m, u) :: zs =>
      simp only [sameEntries, Bool.and_eq_true] at hab hbc ⊢
      exact ⟨⟨same_trans hab.1.1 hbc.1.1, same_trans hab.1.2 hbc.1.2⟩,
        sameEntries_trans hab.2 hbc.2⟩

end

end Yaml
end PodReach
