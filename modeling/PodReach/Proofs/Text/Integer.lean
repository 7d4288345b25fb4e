import Mathlib.Data.Nat.Digits.Defs
import Mathlib.Tactic.IntervalCases
import PodReach.Proofs.Text.Blank
import PodReach.Text.Integer

/-!
# What is a numeral

A numeral is described by its parts: padding, at most one sign, decimal digits of any script with
single underscores between them, padding again. Its value is that of the digits in base ten. The
reader accepts the texts of this form and no others. No digit and no sign is blank, so it is the
padding and nothing else that is trimmed off.
-/

namespace PodReach.Text

variable {text cs : List Char} {ds : List Nat} {c : Char} {d n : Nat} {value : Int}

/-- Decimal digits with single underscores between them, and the values of the digits. -/
inductive DigitRun : List Char → List Nat → Prop
  | last {c : Char} {d : Nat} (digit : digitValue? c = some d) : DigitRun [c] [d]
  | next {c : Char} {d : Nat} {cs : List Char} {ds : List Nat} (digit : digitValue? c = some d)
      (rest : DigitRun cs ds) : DigitRun (c :: cs) (d :: ds)
  | spaced {c : Char} {d : Nat} {cs : List Char} {ds : List Nat} (digit : digitValue? c = some d)
      (rest : DigitRun cs ds) : DigitRun (c :: '_' :: cs) (d :: ds)

/-- A sign that may stand before the digits, and the factor that it stands for. -/
inductive Sign : List Char → Int → Prop
  | absent : Sign [] 1
  | plus : Sign ['+'] 1
  | minus : Sign ['-'] (-1)

/-- An integer numeral and its value. -/
inductive Numeral : List Char → Int → Prop
  | intro {before sign run after : List Char} {factor : Int} {digits : List Nat}
      (before_padding : ∀ c ∈ before, isNumeralPadding c = true) (signed : Sign sign factor)
      (digitRun : DigitRun run digits) (short : digits.length ≤ maxNumeralDigits)
      (after_padding : ∀ c ∈ after, isNumeralPadding c = true) :
      Numeral (before ++ (sign ++ run) ++ after) (factor * (Nat.ofDigits 10 digits.reverse : Nat))

/-! ## Characters -/

/-- A digit belongs to the ten that begin with some zero. -/
theorem bounds_of_digitValue? (h : digitValue? c = some d) :
    ∃ origin ∈ digitZeros, origin ≤ c.toNat ∧ c.toNat < origin + 10 := by
  obtain ⟨origin, horigin, -⟩ := Option.map_eq_some_iff.mp h
  have hbounds := List.find?_some horigin
  simp only [Bool.and_eq_true, decide_eq_true_eq] at hbounds
  exact ⟨origin, List.mem_of_find?_eq_some horigin, hbounds⟩

/-- The blanks lie between the digits. -/
theorem isBlank_of_digit (h : digitValue? c = some d) : isBlank c = false := by
  have hgaps : ∀ origin ∈ digitZeros, 33 ≤ origin ∧ origin + 10 ≤ 0x85 ∨
      0xA1 ≤ origin ∧ origin + 10 ≤ 0x1680 ∨ 0x1681 ≤ origin ∧ origin + 10 ≤ 0x2000 ∨
      0x3001 ≤ origin := by
    decide
  obtain ⟨origin, hmem, hlow, hhigh⟩ := bounds_of_digitValue? h
  have hgap := hgaps origin hmem
  simp only [isBlank, Bool.or_eq_false_iff, Bool.and_eq_false_iff, decide_eq_false_iff_not,
    beq_eq_false_iff_ne]
  omega

theorem isNumeralPadding_of_digit (h : digitValue? c = some d) : isNumeralPadding c = false := by
  rw [isNumeralPadding, isBlank_of_digit h, Bool.false_and]

theorem ne_of_digit {other : Char} (h : digitValue? c = some d)
    (hother : digitValue? other = none) : c ≠ other := by
  rintro rfl
  rw [hother] at h
  cases h

/-! ## Digits -/

namespace DigitRun

theorem ne_nil (h : DigitRun cs ds) : cs ≠ [] := by
  cases h <;> simp

/-- A run begins with a digit. -/
theorem head (h : DigitRun cs ds) : ∃ c d, cs.head? = some c ∧ digitValue? c = some d := by
  cases h with
  | last digit | next digit _ | spaced digit _ => exact ⟨_, _, rfl, digit⟩

/-- A run ends with a digit. -/
theorem last_digit (h : DigitRun cs ds) :
    ∃ c d, cs.getLast? = some c ∧ digitValue? c = some d := by
  induction h with
  | last digit => exact ⟨_, _, rfl, digit⟩
  | next digit rest ih =>
      obtain ⟨c', d', hlast, hdigit⟩ := ih
      exact ⟨c', d', by rw [List.getLast?_cons, hlast]; rfl, hdigit⟩
  | spaced digit rest ih =>
      obtain ⟨c', d', hlast, hdigit⟩ := ih
      exact ⟨c', d', by rw [List.getLast?_cons, List.getLast?_cons, hlast]; rfl, hdigit⟩

/-- A run goes on with a digit. -/
theorem snoc (h : DigitRun cs ds) (digit : digitValue? c = some d) :
    DigitRun (cs ++ [c]) (ds ++ [d]) := by
  induction h with
  | last first => exact .next first (.last digit)
  | next first rest ih => exact .next first ih
  | spaced first rest ih => exact .spaced first ih

end DigitRun

/-- The digits that are read are those of a run. -/
theorem numeralDigits?_eq_some_iff : numeralDigits? cs = some ds ↔ DigitRun cs ds := by
  constructor
  · intro h
    induction cs using numeralDigits?.induct generalizing ds with
    | case1 => cases h
    | case2 c rest ih =>
        rw [numeralDigits?] at h
        obtain ⟨d, hdigit, h⟩ := Option.bind_eq_some_iff.mp h
        split at h
        · cases h
          exact .last hdigit
        · obtain ⟨ds, hmore, rfl⟩ := Option.map_eq_some_iff.mp h
          exact .spaced hdigit (ih hmore)
        · rename_i hne hunspaced
          obtain ⟨ds, hmore, rfl⟩ := Option.map_eq_some_iff.mp h
          split at ih
          · exact absurd rfl hne
          · exact absurd rfl (hunspaced _)
          · exact .next hdigit (ih hmore)
  · intro h
    induction h with
    | last digit => simp [numeralDigits?, digit]
    | @next c d cs ds digit rest ih =>
        -- a run begins with a digit, so no underscore is passed over
        obtain ⟨first, value, hfirst, hdigit⟩ := rest.head
        obtain ⟨more, rfl⟩ := List.head?_eq_some_iff.mp hfirst
        have hne : first ≠ '_' := ne_of_digit hdigit (by decide)
        rw [numeralDigits?, digit]
        simp [hne, ih]
    | @spaced c d cs ds digit rest ih =>
        rw [numeralDigits?, digit]
        simp [ih]

/-- The value of digits is the one in base ten. -/
theorem ofDigits_eq (ds : List Nat) : ofDigits ds = Nat.ofDigits 10 ds.reverse := by
  rw [Nat.ofDigits_eq_foldr, List.foldr_reverse, ofDigits]
  congr 1
  funext n d
  rw [Nat.cast_id, Nat.add_comm]

/-! ## Numerals -/

theorem readNatural?_eq_some_iff : readNatural? cs = some n ↔
    ∃ ds, DigitRun cs ds ∧ ds.length ≤ maxNumeralDigits ∧ n = Nat.ofDigits 10 ds.reverse := by
  rw [readNatural?]
  constructor
  · intro h
    obtain ⟨ds, hdigits, h⟩ := Option.bind_eq_some_iff.mp h
    split at h
    · rename_i hshort
      cases h
      exact ⟨ds, numeralDigits?_eq_some_iff.mp hdigits, hshort, ofDigits_eq ds⟩
    · cases h
  · rintro ⟨ds, hrun, hshort, rfl⟩
    rw [numeralDigits?_eq_some_iff.mpr hrun, ← ofDigits_eq]
    exact if_pos hshort

/-- A natural number that was read is taken as an integer. -/
theorem map_cast_eq_some_iff {read : Option Nat} {form : Int → Int} :
    Option.map form (do return ((← read : Nat) : Int)) = some value ↔
      ∃ n, read = some n ∧ form n = value := by
  cases read <;> simp

theorem readSigned?_eq_some_iff : readSigned? cs = some value ↔
    ∃ sign run factor ds, cs = sign ++ run ∧ Sign sign factor ∧ DigitRun run ds ∧
      ds.length ≤ maxNumeralDigits ∧ value = factor * (Nat.ofDigits 10 ds.reverse : Nat) := by
  constructor
  · intro h
    unfold readSigned? at h
    split at h <;> obtain ⟨n, hn, rfl⟩ := map_cast_eq_some_iff.mp h <;>
      obtain ⟨ds, hrun, hshort, rfl⟩ := readNatural?_eq_some_iff.mp hn
    · exact ⟨_, _, _, ds, rfl, .minus, hrun, hshort, by simp⟩
    · exact ⟨_, _, _, ds, rfl, .plus, hrun, hshort, by simp⟩
    · exact ⟨_, _, _, ds, rfl, .absent, hrun, hshort, by simp⟩
  · rintro ⟨sign, run, factor, ds, rfl, hsign, hrun, hshort, rfl⟩
    have hread := readNatural?_eq_some_iff.mpr ⟨ds, hrun, hshort, rfl⟩
    cases hsign with
    | absent =>
        obtain ⟨first, value, hfirst, hdigit⟩ := hrun.head
        obtain ⟨more, rfl⟩ := List.head?_eq_some_iff.mp hfirst
        have hminus : first ≠ '-' := ne_of_digit hdigit (by decide)
        have hplus : first ≠ '+' := ne_of_digit hdigit (by decide)
        simp [readSigned?, hminus, hplus, hread]
    | plus => simp [readSigned?, hread]
    | minus => simp [readSigned?, hread]

/-- A text is read as an integer if and only if it is a numeral of that value. -/
theorem readInteger?_eq_some_iff {s : String} :
    readInteger? s = some value ↔ Numeral s.toList value := by
  rw [readInteger?, readSigned?_eq_some_iff]
  constructor
  · rintro ⟨sign, run, factor, ds, htrimmed, hsign, hrun, hshort, rfl⟩
    obtain ⟨before, after, htext, hbefore, hafter⟩ := exists_trimBoth isNumeralPadding s.toList
    rw [htext, htrimmed]
    exact .intro hbefore hsign hrun hshort hafter
  · generalize s.toList = text
    rintro @⟨before, sign, run, after, factor, ds, hbefore, hsign, hrun, hshort, hafter⟩
    refine ⟨sign, run, factor, ds, ?_, hsign, hrun, hshort, rfl⟩
    -- neither a sign nor a digit is padding
    refine trimBoth_append hbefore hafter (fun c hc => ?_) (fun c hc => ?_) ?_
    · cases hsign with
      | absent =>
          obtain ⟨first, value, hfirst, hdigit⟩ := hrun.head
          cases hfirst.symm.trans hc
          exact isNumeralPadding_of_digit hdigit
      | plus =>
          cases hc
          decide
      | minus =>
          cases hc
          decide
    · obtain ⟨last, value, hlast, hdigit⟩ := hrun.last_digit
      rw [List.getLast?_append, hlast] at hc
      cases hc
      exact isNumeralPadding_of_digit hdigit
    · simp [hrun.ne_nil]

theorem Numeral.ne_nil (h : Numeral text value) : text ≠ [] := by
  cases h with
  | intro _ _ hrun _ _ => simp [hrun.ne_nil]

/-- No text is a numeral of two values. -/
theorem Numeral.unique {other : Int} (h : Numeral text value) (h' : Numeral text other) :
    value = other := by
  have hread : ∀ v, readInteger? (String.ofList text) = some v ↔ Numeral text v := by
    intro v
    rw [readInteger?_eq_some_iff, String.toList_ofList]
  exact Option.some.inj (((hread _).mpr h).symm.trans ((hread _).mpr h'))

/-! ## Written numbers -/

theorem digitValue?_digitChar (h : d < 10) : digitValue? d.digitChar = some d := by
  interval_cases d <;> decide

/-- The usual notation of a number is a run of digits. -/
theorem exists_digitRun_toDigits (n : Nat) : ∃ ds, DigitRun (Nat.toDigits 10 n) ds ∧
    ds.length = (Nat.toDigits 10 n).length ∧ Nat.ofDigits 10 ds.reverse = n := by
  induction n using Nat.strong_induction_on with
  | _ n ih =>
    by_cases hsmall : n < 10
    · refine ⟨[n], ?_, ?_, by simp⟩ <;> rw [Nat.toDigits_of_lt_base hsmall]
      · exact .last (digitValue?_digitChar hsmall)
      · rfl
    · have hbig : 10 ≤ n := Nat.le_of_not_lt hsmall
      obtain ⟨ds, hrun, hlength, hvalue⟩ := ih (n / 10) (by omega)
      rw [Nat.toDigits_of_base_le (by omega) hbig]
      refine ⟨ds ++ [n % 10], hrun.snoc (digitValue?_digitChar (by omega)), by simp [hlength], ?_⟩
      rw [List.reverse_append, List.reverse_singleton, List.singleton_append, Nat.ofDigits_cons,
        hvalue]
      omega

/-- A number of at most so many digits is read back. -/
theorem numeral_toString (h : n < 10 ^ maxNumeralDigits) : Numeral (toString n).toList n := by
  obtain ⟨ds, hrun, hlength, hvalue⟩ := exists_digitRun_toDigits n
  have hshort : ds.length ≤ maxNumeralDigits := by
    rw [hlength]
    exact Nat.toDigits_length 10 n _ (by decide) h
  rw [Nat.toString_eq_ofList_toDigits, String.toList_ofList]
  have hnumeral : Numeral ([] ++ ([] ++ Nat.toDigits 10 n) ++ [])
      (1 * (Nat.ofDigits 10 ds.reverse : Nat)) :=
    .intro (by simp) .absent hrun hshort (by simp)
  simpa [hvalue] using hnumeral

end PodReach.Text
