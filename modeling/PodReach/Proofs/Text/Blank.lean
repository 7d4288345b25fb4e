import Mathlib.Data.List.DropRight
import Mathlib.Tactic.SplitIfs
import PodReach.Text.Blank

/-!
# Trimming, cutting and splitting

What is trimmed off a text belongs to the class that is trimmed, and a text that neither begins nor
ends with such a character is what remains between them. A text is cut at the first occurrence of a
character, so that the part before it is free of the character, and it is split at every occurrence
into pieces that are free of it.
-/

namespace PodReach.Text

variable {p : Char → Bool} {sep c : Char} {text before after core : List Char}

/-- A text is what remains of it between two runs of trimmed characters. -/
theorem exists_trimBoth (p : Char → Bool) (text : List Char) : ∃ before after,
    text = before ++ trimBoth p text ++ after ∧ (∀ c ∈ before, p c = true) ∧
      ∀ c ∈ after, p c = true := by
  refine ⟨text.takeWhile p, (text.dropWhile p).rtakeWhile p, ?_, ?_, ?_⟩
  · have hright : trimBoth p text ++ (text.dropWhile p).rtakeWhile p = text.dropWhile p :=
      List.rdropWhile_append_rtakeWhile
    rw [List.append_assoc, hright, List.takeWhile_append_dropWhile]
  · exact fun c hc => List.mem_takeWhile_imp hc
  · exact fun c hc => List.mem_rtakeWhile_imp hc

/-- What begins and ends with characters outside the class is left by trimming. -/
theorem trimBoth_append (hbefore : ∀ c ∈ before, p c = true) (hafter : ∀ c ∈ after, p c = true)
    (hhead : ∀ c, core.head? = some c → p c = false)
    (hlast : ∀ c, core.getLast? = some c → p c = false) (hne : core ≠ []) :
    trimBoth p (before ++ core ++ after) = core := by
  obtain ⟨first, rest, rfl⟩ := List.exists_cons_of_ne_nil hne
  have hleft : (before ++ (first :: rest) ++ after).dropWhile p = first :: rest ++ after := by
    rw [List.append_assoc, List.dropWhile_append_of_pos hbefore, List.cons_append,
      List.dropWhile_cons_of_neg (by simp [hhead first rfl])]
  have hright : (after.reverse ++ (first :: rest).reverse).dropWhile p =
      (first :: rest).reverse := by
    rw [List.dropWhile_append_of_pos fun c hc => hafter c (List.mem_reverse.mp hc)]
    rw [List.dropWhile_eq_self_iff]
    intro hlength
    have hlast' := hlast _ (List.getLast?_eq_some_getLast hne)
    rw [← List.head_eq_getElem (by simp), List.head_reverse]
    simp [hlast']
  unfold trimBoth
  rw [hleft, List.reverse_append, hright, List.reverse_reverse]

/-- What is left by trimming begins with no character of the class. -/
theorem head_trimBoth (h : (trimBoth p text).head? = some c) : p c = false := by
  obtain ⟨rest, hrest⟩ : trimBoth p text <+: text.dropWhile p :=
    List.rdropWhile_prefix p (text.dropWhile p)
  have hhead : (text.dropWhile p).head? = some c := by
    rw [← hrest, List.head?_append, h, Option.some_or]
  have hnot := List.head?_dropWhile_not p text
  rw [hhead] at hnot
  exact hnot

/-- What is left by trimming ends with no character of the class. -/
theorem last_trimBoth (h : (trimBoth p text).getLast? = some c) : p c = false := by
  have hlast : ((text.dropWhile p).reverse.dropWhile p).head? = some c := by
    rw [← List.getLast?_reverse]
    exact h
  have hnot := List.head?_dropWhile_not p (text.dropWhile p).reverse
  rw [hlast] at hnot
  exact hnot

theorem trimBoth_of_not_mem (h : ∀ c ∈ text, p c = false) : trimBoth p text = text := by
  by_cases hne : text = []
  · rw [hne]
    rfl
  · have htrimmed : trimBoth p ([] ++ text ++ []) = text :=
      trimBoth_append (by simp) (by simp) (fun c hc => h c (List.mem_of_mem_head? hc))
        (fun c hc => h c (List.mem_of_getLast? hc)) hne
    simpa using htrimmed

/-- A text is cut where a character occurs first. -/
theorem cutAtFirst_eq_some_iff :
    cutAtFirst sep text = some (before, after) ↔ text = before ++ sep :: after ∧ sep ∉ before := by
  induction text generalizing before with
  | nil => simp [cutAtFirst]
  | cons c rest ih =>
      by_cases hc : c = sep
      · subst hc
        cases before with
        | nil => simp [cutAtFirst, eq_comm]
        | cons first before =>
            simp only [cutAtFirst, beq_self_eq_true, if_true, Option.some.injEq, Prod.mk.injEq,
              List.cons_append, List.cons.injEq, List.mem_cons, not_or]
            exact ⟨fun h => absurd h.1 (by simp), fun h => absurd h.1.1 h.2.1⟩
      · simp only [cutAtFirst, beq_eq_false_iff_ne.mpr hc]
        cases before with
        | nil => simp [hc]
        | cons first before =>
            simp only [Bool.false_eq_true, if_false, Option.map_eq_some_iff, Prod.exists,
              Prod.mk.injEq, List.cons.injEq, List.cons_append, List.mem_cons, not_or]
            constructor
            · rintro ⟨left, right, hcut, ⟨rfl, rfl⟩, rfl⟩
              obtain ⟨rfl, hsep⟩ := ih.mp hcut
              exact ⟨⟨rfl, rfl⟩, Ne.symm hc, hsep⟩
            · rintro ⟨⟨rfl, hrest⟩, -, hsep⟩
              exact ⟨before, after, ih.mpr ⟨hrest, hsep⟩, ⟨rfl, rfl⟩, rfl⟩

theorem cutAtFirst_eq_none_iff : cutAtFirst sep text = none ↔ sep ∉ text := by
  induction text with
  | nil => simp [cutAtFirst]
  | cons c rest ih =>
      by_cases hc : c = sep
      · simp [cutAtFirst, hc]
      · simp [cutAtFirst, hc, Ne.symm hc, ih]

/-- Splitting at a character is what the standard library calls so. -/
theorem splitOnChar_eq_splitOn (sep : Char) (text : List Char) :
    splitOnChar sep text = text.splitOn sep := by
  induction text with
  | nil => rfl
  | cons c rest ih =>
      rw [List.splitOn_cons_eq_if_modifyHead, splitOnChar, ih]
      split_ifs with hsep
      · rfl
      · obtain ⟨piece, pieces, hpieces⟩ :=
          List.exists_cons_of_ne_nil (List.splitOn_ne_nil sep rest)
        rw [hpieces]
        rfl

/-- What was joined by a character that is in none of the pieces is split into them again. -/
theorem splitOnChar_intercalate {pieces : List (List Char)} (h : ∀ piece ∈ pieces, sep ∉ piece)
    (hne : pieces ≠ []) : splitOnChar sep ([sep].intercalate pieces) = pieces := by
  rw [splitOnChar_eq_splitOn, List.splitOn_intercalate sep h hne]

end PodReach.Text
