import Mathlib.Data.Nat.Digits.Defs
import Mathlib.Tactic.Ring
import PodReach.Net.Address
import PodReach.Proofs.Outcome
import PodReach.Proofs.Text.Blank

/-!
# Quads and groups

An IPv4 address is spelled as four numbers in decimal digits, and in no other way. A group of an
IPv6 address is spelled in up to four hexadecimal digits, with letters of either case and with
leading zeros. The pieces of a text between its colons are read as the number that they denote: two
of them may be a quad at the end, and an empty one in the middle is a run of zeros.
-/

namespace PodReach.Net

open PodReach.Text

/-! ## Spellings -/

/-- Four numbers below 256 in decimal digits without leading zeros, with points between them. -/
inductive Quad : List Char → Nat → Prop
  | mk {a b c d : Nat} (ha : a < 256) (hb : b < 256) (hc : c < 256) (hd : d < 256) :
      Quad (['.'].intercalate ([a, b, c, d].map (Nat.toDigits 10)))
        (a * 2 ^ 24 + b * 2 ^ 16 + c * 2 ^ 8 + d)

/-- A hexadecimal digit with its value; letters of either case are digits. -/
def HexDigit (c : Char) (d : Nat) : Prop :=
  d < 16 ∧ (c = Nat.digitChar d ∨ c = (Nat.digitChar d).toUpper)

/-- One to four hexadecimal digits with the number that they denote. -/
def Group (cs : List Char) (n : Nat) : Prop :=
  1 ≤ cs.length ∧ cs.length ≤ 4 ∧
    ∃ ds, List.Forall₂ HexDigit cs ds ∧ n = Nat.ofDigits 16 ds.reverse

/-- Groups with their numbers; a quad at the end stands for two of them. -/
inductive Pieces : List (List Char) → List Nat → Prop
  | nil : Pieces [] []
  | quad {cs : List Char} {n : Nat} (hquad : Quad cs n) : Pieces [cs] [n / 65536, n % 65536]
  | cons {cs : List Char} {n : Nat} {pieces : List (List Char)} {values : List Nat}
      (hgroup : Group cs n) (hrest : Pieces pieces values) : Pieces (cs :: pieces) (n :: values)

/-- The number that groups of sixteen bits denote, the highest of them first. -/
def groupsValue (values : List Nat) : Nat :=
  Nat.ofDigits 65536 values.reverse

/-! ## Quads -/

section Quads

variable {cs : List Char} {n : Nat}

theorem exists_digitChar {c : Char} (h : isAsciiDigit c = true) :
    ∃ d : Fin 10, c = Nat.digitChar d := by
  simp only [isAsciiDigit, Bool.and_eq_true, decide_eq_true_eq] at h
  refine ⟨⟨c.toNat - 48, by omega⟩, Char.toNat_inj.mp ?_⟩
  rw [Nat.toNat_digitChar_of_lt_ten (by dsimp only; omega)]
  dsimp only
  omega

/-- Up to three digits are read as the number whose digits they are. -/
theorem readOctet?_digitChars :
    (∀ a : Fin 10, (readOctet? [Nat.digitChar a]).all fun n =>
      n < 256 && Nat.toDigits 10 n == [Nat.digitChar a]) ∧
    (∀ a b : Fin 10, (readOctet? [Nat.digitChar a, Nat.digitChar b]).all fun n =>
      n < 256 && Nat.toDigits 10 n == [Nat.digitChar a, Nat.digitChar b]) ∧
    ∀ a b c : Fin 10, (readOctet? [Nat.digitChar a, Nat.digitChar b, Nat.digitChar c]).all fun n =>
      n < 256 && Nat.toDigits 10 n == [Nat.digitChar a, Nat.digitChar b, Nat.digitChar c] := by
  decide +kernel

theorem readOctet?_toDigits : ∀ n < 256, readOctet? (Nat.toDigits 10 n) = some n := by
  decide +kernel

theorem isAsciiDigit_toDigits : ∀ n < 256, (Nat.toDigits 10 n).all isAsciiDigit = true := by
  decide +kernel

/-- A part of a quad is a number below 256 in its own digits. -/
theorem readOctet?_eq_some_iff : readOctet? cs = some n ↔ n < 256 ∧ cs = Nat.toDigits 10 n := by
  constructor
  · intro h
    have hdigits : cs ≠ [] ∧ (∀ c ∈ cs, isAsciiDigit c = true) ∧ cs.length ≤ 3 := by
      have hread := h
      unfold readOctet? at hread
      split_ifs at hread with hshape
      all_goals simpa [not_or, and_assoc] using hshape
    obtain ⟨hone, htwo, hthree⟩ := readOctet?_digitChars
    obtain ⟨hne, hall, hlength⟩ := hdigits
    have hnumber (hread : (readOctet? cs).all (fun n =>
        n < 256 && Nat.toDigits 10 n == cs) = true) : n < 256 ∧ cs = Nat.toDigits 10 n := by
      rw [h, Option.all_some, Bool.and_eq_true, decide_eq_true_eq, beq_iff_eq] at hread
      exact ⟨hread.1, hread.2.symm⟩
    refine hnumber ?_
    -- at most three digits: few enough texts to try them all
    rcases cs with _ | ⟨a, _ | ⟨b, _ | ⟨c, _ | ⟨d, rest⟩⟩⟩⟩
    · exact absurd rfl hne
    · obtain ⟨a, rfl⟩ := exists_digitChar (hall a (by simp))
      exact hone a
    · obtain ⟨a, rfl⟩ := exists_digitChar (hall a (by simp))
      obtain ⟨b, rfl⟩ := exists_digitChar (hall b (by simp))
      exact htwo a b
    · obtain ⟨a, rfl⟩ := exists_digitChar (hall a (by simp))
      obtain ⟨b, rfl⟩ := exists_digitChar (hall b (by simp))
      obtain ⟨c, rfl⟩ := exists_digitChar (hall c (by simp))
      exact hthree a b c
    · simp only [List.length_cons] at hlength
      omega
  · rintro ⟨hn, rfl⟩
    exact readOctet?_toDigits n hn

/-- A text is what joins its pieces. -/
theorem intercalate_splitOnChar (sep : Char) (text : List Char) :
    [sep].intercalate (splitOnChar sep text) = text := by
  rw [splitOnChar_eq_splitOn, List.intercalate_splitOn]

/-- The characters of a part of a quad are no marks. -/
theorem not_mem_toDigits {mark : Char} (hn : n < 256) (hmark : isAsciiDigit mark = false) :
    mark ∉ Nat.toDigits 10 n := by
  intro hmem
  have hall := List.all_eq_true.mp (isAsciiDigit_toDigits n hn) mark hmem
  rw [hmark] at hall
  cases hall

/-- A dotted quad is read as the number that it spells. -/
theorem readV4?_eq_some_iff : readV4? cs = some n ↔ Quad cs n := by
  constructor
  · intro h
    unfold readV4? at h
    split at h
    · rename_i a b c d hsplit
      simp only [Option.bind_eq_bind, Option.bind_eq_some_iff, readOctet?_eq_some_iff] at h
      obtain ⟨a, ⟨ha, rfl⟩, b, ⟨hb, rfl⟩, c, ⟨hc, rfl⟩, d, ⟨hd, rfl⟩, h⟩ := h
      have htext := intercalate_splitOnChar '.' cs
      rw [hsplit] at htext
      obtain rfl : a * 2 ^ 24 + b * 2 ^ 16 + c * 2 ^ 8 + d = n := by
        rw [← Option.some.inj h]
        ring
      rw [← htext]
      exact .mk ha hb hc hd
    · cases h
  · rintro ⟨ha, hb, hc, hd⟩
    rename_i a b c d
    have hsplit : splitOnChar '.' (['.'].intercalate ([a, b, c, d].map (Nat.toDigits 10))) =
        [a, b, c, d].map (Nat.toDigits 10) := by
      refine splitOnChar_intercalate ?_ (by simp)
      simp only [List.map_cons, List.map_nil, List.forall_mem_cons, List.not_mem_nil,
        false_implies, implies_true, and_true]
      exact ⟨not_mem_toDigits ha rfl, not_mem_toDigits hb rfl, not_mem_toDigits hc rfl,
        not_mem_toDigits hd rfl⟩
    unfold readV4?
    rw [hsplit]
    simp only [List.map_cons, List.map_nil, readOctet?_toDigits _ ha, readOctet?_toDigits _ hb,
      readOctet?_toDigits _ hc, readOctet?_toDigits _ hd, Option.bind_eq_bind, Option.bind_some]
    exact congrArg some (by ring)

theorem Quad.lt (h : Quad cs n) : n < 2 ^ 32 := by
  cases h with
  | mk ha hb hc hd =>
      norm_num
      omega

theorem Quad.mem_point (h : Quad cs n) : '.' ∈ cs := by
  cases h
  simp [List.intercalate]

/-- A quad has no mark but its points. -/
theorem Quad.not_mem {mark : Char} (h : Quad cs n) (hmark : isAsciiDigit mark = false)
    (hpoint : mark ≠ '.') : mark ∉ cs := by
  cases h with
  | mk ha hb hc hd =>
      simp [List.intercalate, not_mem_toDigits ha hmark, not_mem_toDigits hb hmark,
        not_mem_toDigits hc hmark, not_mem_toDigits hd hmark, hpoint]

end Quads

/-! ## Groups -/

section Groups

variable {cs : List Char} {n : Nat}

/-- The number after one more hexadecimal digit. -/
def withDigit? (n : Nat) (c : Char) : Option Nat := do
  let d ← letterDigit? c
  if d < 16 then some (16 * n + d) else none

theorem letterDigit?_digitChar : ∀ d < 16, letterDigit? (Nat.digitChar d) = some d ∧
    letterDigit? (Nat.digitChar d).toUpper = some d := by
  decide

/-- The digits and the first six letters of either case are those that a value comes from. -/
theorem hexDigit_ofNat : (∀ d < 10, HexDigit (Char.ofNat (48 + d)) d) ∧
    (∀ d < 16, 10 ≤ d → HexDigit (Char.ofNat (87 + d)) d) ∧
    ∀ d < 16, 10 ≤ d → HexDigit (Char.ofNat (55 + d)) d := by
  unfold HexDigit
  decide

theorem hexDigit_iff {c : Char} {d : Nat} : HexDigit c d ↔ letterDigit? c = some d ∧ d < 16 := by
  constructor
  · rintro ⟨hd, rfl | rfl⟩
    · exact ⟨(letterDigit?_digitChar d hd).1, hd⟩
    · exact ⟨(letterDigit?_digitChar d hd).2, hd⟩
  · rintro ⟨hvalue, hd⟩
    obtain ⟨hdigit, hlower, hupper⟩ := hexDigit_ofNat
    have hchar {base : Nat} (hcode : c.toNat = base + d) : c = Char.ofNat (base + d) := by
      rw [← hcode, Char.ofNat_toNat]
    simp only [letterDigit?, Bool.and_eq_true, decide_eq_true_eq] at hvalue
    split_ifs at hvalue with h₁ h₂ h₃
    · have := Option.some.inj hvalue
      rw [@hchar 48 (by omega)]
      exact hdigit d (by omega)
    · have := Option.some.inj hvalue
      rw [@hchar 87 (by omega)]
      exact hlower d hd (by omega)
    · have := Option.some.inj hvalue
      rw [@hchar 55 (by omega)]
      exact hupper d hd (by omega)

theorem withDigit?_eq_some_iff {acc : Nat} {c : Char} :
    withDigit? acc c = some n ↔ ∃ d, HexDigit c d ∧ n = 16 * acc + d := by
  simp only [withDigit?, Option.bind_eq_bind, Option.bind_eq_some_iff,
    Option.ite_none_right_eq_some, Option.some.injEq, hexDigit_iff, and_assoc]
  exact exists_congr fun d => and_congr_right fun _ => and_congr_right fun _ => eq_comm

/-- Hexadecimal digits are read from the highest to the lowest. -/
theorem foldlM_withDigit? {acc : Nat} : cs.foldlM withDigit? acc = some n ↔
    ∃ ds, List.Forall₂ HexDigit cs ds ∧ n = acc * 16 ^ cs.length + Nat.ofDigits 16 ds.reverse := by
  induction cs generalizing acc with
  | nil => simp [eq_comm]
  | cons c cs ih =>
      -- every later digit moves this one up by a factor of sixteen
      have hvalue (d : Nat) (ds : List Nat) (hds : List.Forall₂ HexDigit cs ds) :
          (16 * acc + d) * 16 ^ cs.length + Nat.ofDigits 16 ds.reverse =
            acc * 16 ^ (c :: cs).length + Nat.ofDigits 16 (d :: ds).reverse := by
        rw [List.reverse_cons, Nat.ofDigits_append, List.length_reverse, ← hds.length_eq,
          Nat.ofDigits_singleton, List.length_cons]
        ring
      simp only [List.foldlM_cons, Option.bind_eq_bind, Option.bind_eq_some_iff, ih,
        withDigit?_eq_some_iff]
      constructor
      · rintro ⟨next, ⟨d, hd, rfl⟩, ds, hds, rfl⟩
        exact ⟨d :: ds, .cons hd hds, hvalue d ds hds⟩
      · rintro ⟨ds, hds, rfl⟩
        cases hds with
        | @cons _ d _ ds hd hds => exact ⟨_, ⟨d, hd, rfl⟩, ds, hds, (hvalue d ds hds).symm⟩

/-- A group is read as the number that it denotes. -/
theorem readGroup?_eq_some_iff : readGroup? cs = some n ↔ Group cs n := by
  unfold readGroup? Group
  by_cases hshape : (cs.isEmpty || decide (cs.length > 4)) = true
  · rw [if_pos hshape]
    simp only [reduceCtorEq, false_iff]
    rintro ⟨hone, hfour, -⟩
    rcases Bool.or_eq_true_iff.mp hshape with hempty | hlong
    · rw [List.isEmpty_iff.mp hempty] at hone
      cases hone
    · exact absurd (of_decide_eq_true hlong) (by omega)
  · rw [if_neg hshape]
    change cs.foldlM withDigit? 0 = some n ↔ _
    rw [foldlM_withDigit?]
    simp only [Bool.or_eq_true, List.isEmpty_iff, decide_eq_true_eq, not_or] at hshape
    have hone : 1 ≤ cs.length := List.length_pos_iff.mpr hshape.1
    have hfour : cs.length ≤ 4 := by omega
    simp [hone, hfour]

theorem hexDigit_hexDigit : ∀ d < 16, HexDigit (hexDigit d) d := by
  simp only [hexDigit_iff]
  decide

/-- Four digits of a number of sixteen bits denote it. -/
theorem group_hexDigits (h : n < 65536) : Group (hexDigits 4 n) n := by
  refine ⟨by simp [hexDigits], by simp [hexDigits],
    [n >>> 12 % 16, n >>> 8 % 16, n >>> 4 % 16, n >>> 0 % 16], ?_, ?_⟩
  · exact .cons (hexDigit_hexDigit _ (by omega)) (.cons (hexDigit_hexDigit _ (by omega))
      (.cons (hexDigit_hexDigit _ (by omega)) (.cons (hexDigit_hexDigit _ (by omega)) .nil)))
  · simp only [List.reverse_cons, List.reverse_nil, List.nil_append, List.cons_append,
      Nat.ofDigits_cons, Nat.ofDigits_nil, Nat.shiftRight_eq_div_pow]
    norm_num
    omega

/-- The characters of a group are no marks. -/
theorem Group.not_mem {mark : Char} (h : Group cs n) (hmark : letterDigit? mark = none) :
    mark ∉ cs := by
  obtain ⟨-, -, ds, hds, -⟩ := h
  induction hds with
  | nil => simp
  | cons hd _ ih =>
      rw [List.mem_cons, not_or]
      refine ⟨?_, ih⟩
      rintro rfl
      rw [hexDigit_iff, hmark] at hd
      cases hd.1

theorem Group.unique {m : Nat} (h : Group cs n) (h' : Group cs m) : n = m := by
  have hread := readGroup?_eq_some_iff.mpr h
  rw [readGroup?_eq_some_iff.mpr h'] at hread
  exact (Option.some.inj hread).symm

theorem Group.ne_nil (h : Group cs n) : cs ≠ [] :=
  List.length_pos_iff.mp h.1

theorem mapM_readGroup? {groups : List (List Char)} {values : List Nat} :
    groups.mapM readGroup? = some values ↔ List.Forall₂ Group groups values := by
  rw [Outcome.mapM_eq_some_iff]
  simp only [readGroup?_eq_some_iff]

theorem joinGroups_eq (values : List Nat) : joinGroups values = groupsValue values := by
  have hfold (acc : Nat) : values.foldl (fun n g => n * 65536 + g) acc =
      acc * 65536 ^ values.length + Nat.ofDigits 65536 values.reverse := by
    induction values generalizing acc with
    | nil => simp
    | cons value values ih =>
        rw [List.foldl_cons, ih, List.reverse_cons, Nat.ofDigits_append, List.length_reverse,
          Nat.ofDigits_singleton, List.length_cons]
        ring
  rw [joinGroups, hfold, Nat.zero_mul, Nat.zero_add, groupsValue]

end Groups

/-! ## A quad at the end -/

section Expansion

variable {front back groups : List (List Char)} {cs : List Char} {n : Nat}

/-- A group is left as it is, and a quad at the end becomes two groups. -/
theorem expandQuad?_concat : expandQuad? (front ++ [cs]) =
    if '.' ∈ cs then
      (readV4? cs).map fun n => front ++ [hexDigits 4 (n / 65536), hexDigits 4 (n % 65536)]
    else some (front ++ [cs]) := by
  unfold expandQuad?
  simp only [List.getLast?_append, List.getLast?_singleton, Option.some_or,
    List.dropLast_concat, List.contains_iff_mem]
  cases readV4? cs <;> rfl

theorem expandQuad?_singleton (cs : List Char) : expandQuad? [cs] =
    if '.' ∈ cs then
      (readV4? cs).map fun n => [hexDigits 4 (n / 65536), hexDigits 4 (n % 65536)]
    else some [cs] := by
  simpa only [List.nil_append] using @expandQuad?_concat [] cs

/-- What stands before the last group stays. -/
theorem expandQuad?_append (hne : back ≠ []) :
    expandQuad? (front ++ back) = (expandQuad? back).map (front ++ ·) := by
  obtain ⟨init, last, rfl⟩ := (List.eq_nil_or_concat' back).resolve_left hne
  rw [← List.append_assoc, expandQuad?_concat, expandQuad?_concat]
  split_ifs
  · simp [Function.comp_def]
  · simp

theorem hexDigits_ne_nil : hexDigits 4 n ≠ [] := by
  simp [hexDigits]

/-- The groups behind an empty one come from those behind it: a quad is not empty. -/
theorem expandQuad?_eq_gap {expanded : List (List Char)} (hne : expanded ≠ [])
    (h : expandQuad? groups = some (front ++ [] :: expanded)) :
    ∃ back, groups = front ++ [] :: back ∧ back ≠ [] ∧ expandQuad? back = some expanded := by
  rcases List.eq_nil_or_concat' groups with rfl | ⟨init, last, rfl⟩
  · exact absurd (Option.some.inj h) (by simp)
  · rw [expandQuad?_concat] at h
    obtain ⟨back, final, rfl⟩ := (List.eq_nil_or_concat' expanded).resolve_left hne
    split_ifs at h with hpoint
    · obtain ⟨n, hquad, h⟩ := Option.map_eq_some_iff.mp h
      have hfinal : init ++ [hexDigits 4 (n / 65536)] ++ [hexDigits 4 (n % 65536)] =
          (front ++ [] :: back) ++ [final] := by
        simpa using h
      obtain ⟨hinit, hlast⟩ := List.append_inj' hfinal rfl
      -- the group before the last one is not empty, so there is one behind the gap
      rcases List.eq_nil_or_concat' back with rfl | ⟨back, before, rfl⟩
      · exact absurd (List.append_inj' hinit rfl).2 (by simp [hexDigits_ne_nil])
      · have hbefore : init ++ [hexDigits 4 (n / 65536)] = (front ++ [] :: back) ++ [before] := by
          simpa using hinit
        obtain ⟨rfl, hsecond⟩ := List.append_inj' hbefore rfl
        refine ⟨back ++ [last], by simp, by simp, ?_⟩
        rw [expandQuad?_concat, if_pos hpoint, hquad, ← hlast, ← hsecond]
        simp
    · have hfinal : init ++ [last] = (front ++ [] :: back) ++ [final] := by
        simpa using Option.some.inj h
      obtain ⟨rfl, hlast⟩ := List.append_inj' hfinal rfl
      obtain rfl := List.singleton_injective hlast
      refine ⟨back ++ [last], by simp, by simp, ?_⟩
      rw [expandQuad?_concat, if_neg hpoint]

theorem Pieces.exists_expanded {pieces : List (List Char)} {values : List Nat}
    (h : Pieces pieces values) :
    ∃ groups, expandQuad? pieces = some groups ∧ List.Forall₂ Group groups values := by
  induction h with
  | nil => exact ⟨[], rfl, .nil⟩
  | @quad cs n hquad =>
      have hn := hquad.lt
      refine ⟨[hexDigits 4 (n / 65536), hexDigits 4 (n % 65536)], ?_, ?_⟩
      · rw [expandQuad?_singleton, if_pos hquad.mem_point, readV4?_eq_some_iff.mpr hquad]
        rfl
      · exact .cons (group_hexDigits (by omega)) (.cons (group_hexDigits (by omega)) .nil)
  | @cons cs n pieces values hgroup _ ih =>
      obtain ⟨groups, hexpand, hgroups⟩ := ih
      refine ⟨cs :: groups, ?_, .cons hgroup hgroups⟩
      by_cases hne : pieces = []
      · subst hne
        cases hexpand
        rw [expandQuad?_singleton, if_neg (hgroup.not_mem rfl)]
      · rw [← List.singleton_append, expandQuad?_append hne, hexpand]
        rfl

theorem pieces_singleton {values : List Nat} (hexpand : expandQuad? [cs] = some groups)
    (hgroups : List.Forall₂ Group groups values) : Pieces [cs] values := by
  rw [expandQuad?_singleton] at hexpand
  split_ifs at hexpand
  · -- a quad stands for two groups, and each of them has only one reading
    obtain ⟨n, hread, rfl⟩ := Option.map_eq_some_iff.mp hexpand
    have hquad := readV4?_eq_some_iff.mp hread
    have hn := hquad.lt
    rcases hgroups with _ | ⟨hhigh, _ | ⟨hlow, _ | _⟩⟩
    obtain rfl := hhigh.unique (group_hexDigits (by omega))
    obtain rfl := hlow.unique (group_hexDigits (by omega))
    exact .quad hquad
  · cases hexpand
    rcases hgroups with _ | ⟨hgroup, _ | _⟩
    exact .cons hgroup .nil

/-- Pieces denote the numbers of the groups that they stand for. -/
theorem pieces_iff {pieces : List (List Char)} {values : List Nat} : Pieces pieces values ↔
    ∃ groups, expandQuad? pieces = some groups ∧ List.Forall₂ Group groups values := by
  refine ⟨Pieces.exists_expanded, ?_⟩
  rintro ⟨groups, hexpand, hgroups⟩
  induction pieces generalizing groups values with
  | nil =>
      cases hexpand
      cases hgroups
      exact .nil
  | cons cs pieces ih =>
      by_cases hne : pieces = []
      · subst hne
        exact pieces_singleton hexpand hgroups
      · rw [← List.singleton_append, expandQuad?_append hne] at hexpand
        obtain ⟨rest, hrest, rfl⟩ := Option.map_eq_some_iff.mp hexpand
        rcases hgroups with _ | ⟨hgroup, hgroups⟩
        exact .cons hgroup (ih rest hrest hgroups)

end Expansion

/-! ## Left out zeros -/

section Gaps

variable {groups high low before inner rest : List (List Char)} {first last : List Char} {n : Nat}

/-- The groups on one side of a run of zeros; a colon with nothing beside it has an empty one. -/
def side (groups : List (List Char)) : List (List Char) :=
  if groups = [] then [[]] else groups

/-- Groups, an empty one in place of a run of zeros, with the number that they denote. -/
inductive Joins : List (List Char) → Nat → Prop
  | full {groups : List (List Char)} {values : List Nat}
      (hgroups : List.Forall₂ Group groups values) (hlength : values.length = 8) :
      Joins groups (groupsValue values)
  | short {high low : List (List Char)} {highs lows : List Nat}
      (hhigh : List.Forall₂ Group high highs) (hlow : List.Forall₂ Group low lows)
      (hlength : highs.length + lows.length ≤ 7) :
      Joins (side high ++ [] :: side low)
        (groupsValue (highs ++ List.replicate (8 - highs.length - lows.length) 0 ++ lows))

/-- The groups that an end contributes: none if it is empty. -/
def nonempty (cs : List Char) : List (List Char) :=
  if cs = [] then [] else [cs]

theorem ne_nil_of_groups {values : List Nat} (h : List.Forall₂ Group groups values) :
    ∀ group ∈ groups, group ≠ [] := by
  induction h with
  | nil => simp
  | cons hgroup _ ih => exact List.forall_mem_cons.mpr ⟨hgroup.ne_nil, ih⟩

theorem side_nonempty_append (h : first = [] → before = []) :
    side (nonempty first ++ before) = first :: before := by
  unfold side nonempty
  by_cases hfirst : first = []
  · simp [hfirst, h hfirst]
  · simp [hfirst]

theorem side_append_nonempty (h : last = [] → rest = []) :
    side (rest ++ nonempty last) = rest ++ [last] := by
  unfold side nonempty
  by_cases hlast : last = []
  · simp [hlast, h hlast]
  · simp [hlast]

/-- The groups before a run of zeros begin with an end of the list. -/
theorem exists_nonempty_append (h : ∀ group ∈ high, group ≠ []) : ∃ first before,
    high = nonempty first ++ before ∧ (first = [] → before = []) := by
  rcases high with _ | ⟨first, before⟩
  · exact ⟨[], [], rfl, fun _ => rfl⟩
  · have hfirst := h first List.mem_cons_self
    exact ⟨first, before, by simp [nonempty, hfirst], fun hempty => absurd hempty hfirst⟩

/-- The groups behind a run of zeros end with an end of the list. -/
theorem exists_append_nonempty (h : ∀ group ∈ low, group ≠ []) : ∃ rest last,
    low = rest ++ nonempty last ∧ (last = [] → rest = []) := by
  rcases List.eq_nil_or_concat' low with rfl | ⟨rest, last, rfl⟩
  · exact ⟨[], [], rfl, fun _ => rfl⟩
  · have hlast := h last (by simp)
    exact ⟨rest, last, by simp [nonempty, hlast], fun hempty => absurd hempty hlast⟩

theorem cutAtGap_append (h : ∀ group ∈ before, group ≠ []) :
    cutAtGap (before ++ [] :: rest) = (before, some rest) := by
  induction before with
  | nil => rfl
  | cons group before ih =>
      rw [List.forall_mem_cons] at h
      rw [List.cons_append, cutAtGap, if_neg (by simpa using h.1), ih h.2]

theorem cutAtGap_of_forall (h : ∀ group ∈ inner, group ≠ []) : cutAtGap inner = (inner, none) := by
  induction inner with
  | nil => rfl
  | cons group inner ih =>
      rw [List.forall_mem_cons] at h
      rw [cutAtGap, if_neg (by simpa using h.1), ih h.2]

theorem getLast?_ends (first last : List Char) (inner : List (List Char)) :
    (first :: (inner ++ [last])).getLast? = some last := by
  rw [← List.cons_append, List.getLast?_concat]

theorem length_ends (first last : List Char) (inner : List (List Char)) :
    (first :: (inner ++ [last])).length = inner.length + 2 := by
  simp

theorem take_ends (first last : List Char) (inner : List (List Char)) :
    (if ((first :: (inner ++ [last])).head? == some []) = true then []
      else (first :: (inner ++ [last])).take 1) = nonempty first := by
  simp [nonempty]

theorem drop_ends (first last : List Char) (inner : List (List Char)) :
    (if ((first :: (inner ++ [last])).getLast? == some []) = true then []
      else (first :: (inner ++ [last])).drop ((first :: (inner ++ [last])).length - 1)) =
        nonempty last := by
  simp only [getLast?_ends]
  simp [nonempty]

theorem drop_dropLast_ends (first last : List Char) (inner : List (List Char)) :
    ((first :: (inner ++ [last])).drop 1).dropLast = inner := by
  simp

/-- Without a run of zeros there are eight groups, and none of them is empty. -/
theorem readV6Groups?_of_full (hexpand : expandQuad? groups = some (first :: (inner ++ [last])))
    (hcut : cutAtGap inner = (inner, none)) : readV6Groups? groups = some n ↔
      ∃ values, List.Forall₂ Group (first :: (inner ++ [last])) values ∧ values.length = 8 ∧
        n = groupsValue values := by
  simp only [readV6Groups?, hexpand, Option.bind_eq_bind, Option.bind_some, drop_dropLast_ends,
    hcut, Option.ite_none_left_eq_some, Option.map_eq_map, Option.map_eq_some_iff,
    mapM_readGroup?, joinGroups_eq, length_ends, getLast?_ends, List.head?_cons]
  constructor
  · rintro ⟨-, hshape, values, hvalues, rfl⟩
    refine ⟨values, hvalues, ?_, rfl⟩
    rw [← hvalues.length_eq, length_ends]
    by_contra hne
    exact hshape (by simp [hne])
  · rintro ⟨values, hvalues, hlength, rfl⟩
    have hne := ne_nil_of_groups hvalues
    have hfirst := hne first List.mem_cons_self
    have hlast := hne last (by simp)
    have hinner : inner.length = 6 := by
      have := hvalues.length_eq
      rw [length_ends, hlength] at this
      omega
    exact ⟨by simp [hinner], by simp [hinner, hfirst, hlast], values, hvalues, rfl⟩

/-- With a run of zeros there are at most seven groups besides it. -/
theorem readV6Groups?_of_gap (hexpand : expandQuad? groups = some (first :: (inner ++ [last])))
    (hcut : cutAtGap inner = (before, some rest)) (hinner : inner = before ++ [] :: rest) :
    readV6Groups? groups = some n ↔
      (∀ group ∈ rest, group ≠ []) ∧ (first = [] → before = []) ∧ (last = [] → rest = []) ∧
        ∃ highs lows, List.Forall₂ Group (nonempty first ++ before) highs ∧
          List.Forall₂ Group (rest ++ nonempty last) lows ∧ highs.length + lows.length ≤ 7 ∧
          n = groupsValue (highs ++ List.replicate (8 - highs.length - lows.length) 0 ++ lows) := by
  simp only [readV6Groups?, hexpand, Option.bind_eq_bind, Option.bind_some, drop_dropLast_ends,
    hcut, take_ends, drop_ends, Option.ite_none_left_eq_some, Option.bind_eq_some_iff,
    mapM_readGroup?, joinGroups_eq, Option.some.injEq]
  have hrest : ¬ (rest.any fun group => group.isEmpty) = true ↔ ∀ group ∈ rest, group ≠ [] := by
    rw [List.any_eq_true, not_exists]
    exact forall_congr' fun group => by rw [not_and, List.isEmpty_iff]
  have hend (cs : List Char) (beside : List (List Char)) :
      ¬ (some cs == some [] && !beside.isEmpty) = true ↔ (cs = [] → beside = []) := by
    simp
  have hcount (hfirst : first = [] → before = []) (hlast : last = [] → rest = [])
      (hseven : (nonempty first ++ before).length + (rest ++ nonempty last).length ≤ 7) :
      ¬ (decide (inner.length + 2 < 3) || decide (inner.length + 2 > 9)) = true := by
    have hinner : inner.length = before.length + (rest.length + 1) := by
      rw [hinner, List.length_append, List.length_cons]
    have hends {cs : List Char} {beside : List (List Char)} (h : cs = [] → beside = []) :
        beside.length = 0 ∨ (nonempty cs).length = 1 := by
      by_cases hcs : cs = []
      · exact Or.inl (by rw [h hcs, List.length_nil])
      · exact Or.inr (by rw [nonempty, if_neg hcs, List.length_singleton])
    have hhigh := hends hfirst
    have hlow := hends hlast
    rw [List.length_append, List.length_append] at hseven
    rw [Bool.or_eq_true, decide_eq_true_eq, decide_eq_true_eq]
    omega
  simp only [length_ends, getLast?_ends, List.head?_cons, hrest, hend]
  constructor
  · rintro ⟨-, hne, hfirst, hlast, hseven, highs, hhighs, lows, hlows, rfl⟩
    refine ⟨hne, hfirst, hlast, highs, lows, hhighs, hlows, ?_, rfl⟩
    rw [← hhighs.length_eq, ← hlows.length_eq]
    omega
  · rintro ⟨hne, hfirst, hlast, highs, lows, hhighs, hlows, hseven, rfl⟩
    rw [← hhighs.length_eq, ← hlows.length_eq] at hseven
    exact ⟨hcount hfirst hlast hseven, hne, hfirst, hlast, by omega, highs, hhighs, lows, hlows,
      rfl⟩

theorem exists_ends (h : 2 ≤ groups.length) :
    ∃ first inner last, groups = first :: (inner ++ [last]) := by
  rcases groups with _ | ⟨first, tail⟩
  · cases h
  · rcases List.eq_nil_or_concat' tail with rfl | ⟨inner, last, rfl⟩
    · simp at h
    · exact ⟨first, inner, last, rfl⟩

theorem exists_expanded (h : readV6Groups? groups = some n) :
    ∃ expanded, expandQuad? groups = some expanded ∧ 3 ≤ expanded.length := by
  unfold readV6Groups? at h
  obtain ⟨expanded, hexpand, h⟩ := Option.bind_eq_some_iff.mp h
  refine ⟨expanded, hexpand, ?_⟩
  by_contra hshort
  rw [if_pos (by simp; omega)] at h
  cases h

/-- What is read are groups, an empty one of them standing for a run of zeros. -/
theorem joins_of_readV6Groups? (h : readV6Groups? groups = some n) :
    ∃ expanded, expandQuad? groups = some expanded ∧ Joins expanded n := by
  obtain ⟨expanded, hexpand, hthree⟩ := exists_expanded h
  obtain ⟨first, inner, last, rfl⟩ := @exists_ends expanded (by omega)
  refine ⟨_, hexpand, ?_⟩
  rcases Outcome.all_or_first (fun group => group ≠ []) inner with
    hinner | ⟨before, gap, rest, hinner, hbefore, hgap⟩
  · obtain ⟨values, hvalues, hlength, rfl⟩ :=
      (readV6Groups?_of_full hexpand (cutAtGap_of_forall hinner)).mp h
    exact .full hvalues hlength
  · obtain rfl := not_not.mp hgap
    obtain ⟨-, hfirst, hlast, highs, lows, hhighs, hlows, hlength, rfl⟩ :=
      (readV6Groups?_of_gap hexpand (hinner ▸ cutAtGap_append hbefore) hinner).mp h
    have hsides : first :: (inner ++ [last]) =
        side (nonempty first ++ before) ++ [] :: side (rest ++ nonempty last) := by
      rw [side_nonempty_append hfirst, side_append_nonempty hlast, hinner]
      simp
    rw [hsides]
    exact .short hhighs hlows hlength

theorem readV6Groups?_of_joins {expanded : List (List Char)}
    (hexpand : expandQuad? groups = some expanded) (h : Joins expanded n) :
    readV6Groups? groups = some n := by
  cases h with
  | full hgroups hlength =>
      have height := hgroups.length_eq.trans hlength
      obtain ⟨first, inner, last, rfl⟩ := @exists_ends expanded (by omega)
      have hinner : ∀ group ∈ inner, group ≠ [] :=
        fun group hgroup => ne_nil_of_groups hgroups group (by simp [hgroup])
      exact (readV6Groups?_of_full hexpand (cutAtGap_of_forall hinner)).mpr
        ⟨_, hgroups, hlength, rfl⟩
  | @short high low highs lows hhigh hlow hlength =>
      have hhighs := ne_nil_of_groups hhigh
      have hlows := ne_nil_of_groups hlow
      obtain ⟨first, before, rfl, hfirst⟩ := exists_nonempty_append hhighs
      obtain ⟨rest, last, rfl, hlast⟩ := exists_append_nonempty hlows
      have hbefore : ∀ group ∈ before, group ≠ [] :=
        fun group hgroup => hhighs group (by simp [hgroup])
      have hrest : ∀ group ∈ rest, group ≠ [] :=
        fun group hgroup => hlows group (by simp [hgroup])
      have hsides : side (nonempty first ++ before) ++ [] :: side (rest ++ nonempty last) =
          first :: ((before ++ [] :: rest) ++ [last]) := by
        rw [side_nonempty_append hfirst, side_append_nonempty hlast]
        simp
      rw [hsides] at hexpand
      exact (readV6Groups?_of_gap hexpand (cutAtGap_append hbefore) rfl).mpr
        ⟨hrest, hfirst, hlast, highs, lows, hhigh, hlow, hlength, rfl⟩

/-- Groups are read as the number that they denote. -/
theorem readV6Groups?_eq_some_iff : readV6Groups? groups = some n ↔
    ∃ expanded, expandQuad? groups = some expanded ∧ Joins expanded n :=
  ⟨joins_of_readV6Groups?, fun ⟨_, hexpand, h⟩ => readV6Groups?_of_joins hexpand h⟩

end Gaps

end PodReach.Net
