/-!
# Binary64 numbers by value

Budgets, intervals and clocks are binary64 numbers. They are kept as what they denote: a
rational that a binary64 word can hold, an infinity, or no number at all. Arithmetic is exact
and then rounded to the nearest representable value, ties to the even one, so the laws of
`Rat` are available wherever no rounding happens. The zero with a minus sign is a number of its
own, equal to the other zero wherever numbers are compared.
-/

namespace PodReach

/-- A binary64 number, by value. -/
inductive Double
  | nan
  | infinite (negative : Bool)
  | minusZero
  | finite (value : Rat)
  deriving DecidableEq, Repr

instance : Inhabited Double := ⟨.finite 0⟩

namespace Double

/-- The value of a number that is finite. -/
def value? : Double → Option Rat
  | finite q => some q
  | minusZero => some 0
  | _ => none

/-- The zero of a sign. -/
def zero (negative : Bool) : Double :=
  if negative then minusZero else finite 0

/-- A power of two with any integer exponent. -/
def twoPow : Int → Rat
  | .ofNat n => (Nat.pow 2 n : Rat)
  | .negSucc n => mkRat 1 (Nat.pow 2 (n + 1))

/-- The exponent `k` with `2 ^ k ≤ num / den < 2 ^ (k + 1)`, for positive arguments. -/
def floorLog2 (num den : Nat) : Int :=
  let k : Int := (num.log2 : Int) - (den.log2 : Int)
  if (den : Rat) * twoPow k ≤ (num : Rat) then k else k - 1

/-- The integer nearest to a rational; of two equally near ones the even one. -/
def nearestEven (q : Rat) : Int :=
  let low := q.floor
  let rest := q - (low : Rat)
  let half : Rat := mkRat 1 2
  if rest < half then low
  else if half < rest then low + 1
  else if low % 2 = 0 then low else low + 1

/-- The rounding of a rational that is not a small whole number: the unit in the last place
is `2 ^ (k - 52)` for a value of magnitude `2 ^ k`, and never below `2 ^ (-1074)`. -/
def roundGeneral (q : Rat) : Double :=
  let k := floorLog2 q.num.natAbs q.den
  let unit := twoPow (max (k - 52) (-1074))
  let value := (nearestEven (q / unit) : Rat) * unit
  if twoPow 1024 ≤ value then .infinite false
  else if value ≤ -twoPow 1024 then .infinite true
  else if value = 0 then .zero (decide (q < 0))
  else .finite value

/-- Two to the power of 53: up to it whole numbers need no rounding. -/
def wholeLimit : Nat := 9007199254740992

/-- The nearest binary64 number. Whole numbers up to `2 ^ 53` in magnitude are themselves. -/
def round (q : Rat) : Double :=
  if q.den = 1 ∧ q.num.natAbs ≤ wholeLimit then .finite q
  else roundGeneral q

/-- The nearest binary64 number to an integer. -/
def ofInt (n : Int) : Double :=
  round n

instance {n : Nat} : OfNat Double n := ⟨ofInt n⟩

/-- The number with the opposite sign. -/
def neg : Double → Double
  | nan => nan
  | infinite negative => infinite !negative
  | minusZero => finite 0
  | finite q => if q = 0 then minusZero else finite (-q)

/-- Sum, rounded; opposite infinities have none. -/
def add : Double → Double → Double
  | nan, _ | _, nan => nan
  | infinite a, infinite b => if a == b then infinite a else nan
  | infinite a, _ => infinite a
  | _, infinite b => infinite b
  | minusZero, x => x
  | x, minusZero => x
  | finite p, finite q => round (p + q)

/-- Difference, rounded. -/
def sub (a b : Double) : Double :=
  add a (neg b)

/-- Whether a number has a minus sign. -/
def isNegative : Double → Bool
  | nan => false
  | infinite negative => negative
  | minusZero => true
  | finite q => decide (q < 0)

/-- Product, rounded; an infinity times zero is no number. -/
def mul (a b : Double) : Double :=
  let negative := a.isNegative != b.isNegative
  match a, b with
  | nan, _ | _, nan => nan
  | infinite _, infinite _ => infinite negative
  | infinite _, x | x, infinite _ => if x.value? == some 0 then nan else infinite negative
  | x, y =>
    let product := x.value?.getD 0 * y.value?.getD 0
    if product = 0 then zero negative else round product

/-- Less or equal; no number is comparable with nothing. -/
def le : Double → Double → Bool
  | nan, _ | _, nan => false
  | infinite a, infinite b => a || !b
  | infinite a, _ => a
  | _, infinite b => !b
  | x, y => decide (x.value?.getD 0 ≤ y.value?.getD 0)

/-- Less than. -/
def lt : Double → Double → Bool
  | nan, _ | _, nan => false
  | infinite a, infinite b => a && !b
  | infinite a, _ => a
  | _, infinite b => !b
  | x, y => decide (x.value?.getD 0 < y.value?.getD 0)

/-- Whether two numbers are equal; no number equals nothing. -/
def eq (a b : Double) : Bool :=
  le a b && le b a

/-- Whether a number is a zero. -/
def isZero (a : Double) : Bool :=
  a.value? == some 0

/-- The value in thousandths, to the nearest whole number; nothing for what is not finite. -/
def toThousandths (a : Double) : Option Int :=
  a.value?.map fun q => nearestEven (q * 1000)

/-- The whole number of a number, the fraction dropped towards zero. -/
def truncate (a : Double) : Option Int :=
  a.value?.map fun q => q.num.tdiv q.den

/-- Whole numbers up to `2 ^ 53` in magnitude are not rounded. -/
theorem ofInt_eq_finite {n : Int} (h : n.natAbs ≤ wholeLimit) : ofInt n = .finite (n : Rat) := by
  have hden : ((n : Rat)).den = 1 := Rat.den_intCast n
  have hnum : ((n : Rat)).num = n := Rat.num_intCast n
  have small : (n : Rat).den = 1 ∧ (n : Rat).num.natAbs ≤ wholeLimit := ⟨hden, hnum.symm ▸ h⟩
  rw [ofInt, round, if_pos small]

end Double
end PodReach
