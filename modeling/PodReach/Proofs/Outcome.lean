import Mathlib.Data.List.Forall2

/-!
# Outcomes put together

What a result or an error of several steps says about each of them.
-/

namespace PodReach.Outcome

section Steps

variable {α β ε : Type} {first : Except ε α} {next : α → Except ε β} {error : ε} {b : β}

/-- A result is that of the second step on the result of the first. -/
theorem bind_eq_ok_iff : first >>= next = .ok b ↔ ∃ a, first = .ok a ∧ next a = .ok b := by
  cases first <;> simp [bind, Except.bind]

/-- An error is that of the first step, or that of the second on the result of the first. -/
theorem bind_eq_error_iff :
    first >>= next = .error error ↔
      first = .error error ∨ ∃ a, first = .ok a ∧ next a = .error error := by
  cases first <;> simp [bind, Except.bind]

end Steps

section Lists

variable {α β ε : Type} {read : α → Except ε β} {l : List α} {error : ε}

theorem mapM_eq_ok_iff {results : List β} :
    l.mapM read = .ok results ↔ List.Forall₂ (fun a b => read a = .ok b) l results := by
  induction l generalizing results with
  | nil => cases results <;> simp [pure, Except.pure]
  | cons a l ih =>
      simp only [List.mapM_cons, bind_eq_ok_iff, ih, pure, Except.pure, Except.ok.injEq]
      constructor
      · rintro ⟨b, hb, bs, hbs, rfl⟩
        exact .cons hb hbs
      · intro h
        cases h with
        | cons hb hbs => exact ⟨_, hb, _, hbs, rfl⟩

/-- An error is that of the first element that has one. -/
theorem mapM_eq_error_iff : l.mapM read = .error error ↔ ∃ before a after,
    l = before ++ a :: after ∧ (∀ b ∈ before, ∃ result, read b = .ok result) ∧
      read a = .error error := by
  induction l with
  | nil => simp [pure, Except.pure]
  | cons first l ih =>
      have hrest (b : β) : (do let bs ← l.mapM read; pure (b :: bs)) = Except.error error ↔
          l.mapM read = .error error := by
        simp [bind_eq_error_iff, pure, Except.pure]
      simp only [List.mapM_cons, bind_eq_error_iff, hrest, ih]
      constructor
      · rintro (hfirst | ⟨b, hfirst, before, a, after, rfl, hbefore, ha⟩)
        · exact ⟨[], first, l, rfl, by simp, hfirst⟩
        · refine ⟨first :: before, a, after, rfl, ?_, ha⟩
          intro c hc
          rcases List.mem_cons.mp hc with rfl | hc
          · exact ⟨b, hfirst⟩
          · exact hbefore c hc
      · rintro ⟨before, a, after, hsplit, hbefore, ha⟩
        cases before with
        | nil =>
            cases hsplit
            exact Or.inl ha
        | cons b before =>
            cases hsplit
            obtain ⟨result, hresult⟩ := hbefore first List.mem_cons_self
            exact Or.inr ⟨result, hresult, before, a, after, rfl,
              fun c hc => hbefore c (List.mem_cons_of_mem _ hc), ha⟩

/-- Either all elements have a property, or there is a first one that has not. -/
theorem all_or_first (P : α → Prop) (l : List α) : (∀ a ∈ l, P a) ∨
    ∃ before a after, l = before ++ a :: after ∧ (∀ b ∈ before, P b) ∧ ¬ P a := by
  induction l with
  | nil => exact Or.inl (by simp)
  | cons first rest ih =>
      by_cases hfirst : P first
      · rcases ih with hall | ⟨before, a, after, rfl, hbefore, ha⟩
        · exact Or.inl (List.forall_mem_cons.mpr ⟨hfirst, hall⟩)
        · exact Or.inr ⟨first :: before, a, after, rfl,
            List.forall_mem_cons.mpr ⟨hfirst, hbefore⟩, ha⟩
      · exact Or.inr ⟨[], first, rest, rfl, by simp, hfirst⟩

section Parts

variable {part : α → Option β} {parts : List β}

theorem mapM_eq_some_iff :
    l.mapM part = some parts ↔ List.Forall₂ (fun a b => part a = some b) l parts := by
  induction l generalizing parts with
  | nil => cases parts <;> simp
  | cons a l ih =>
      simp only [List.mapM_cons, Option.bind_eq_bind, Option.bind_eq_some_iff, Option.pure_def,
        Option.some.injEq, ih]
      constructor
      · rintro ⟨b, hb, bs, hbs, rfl⟩
        exact .cons hb hbs
      · rintro (_ | ⟨hb, hbs⟩)
        exact ⟨_, hb, _, hbs, rfl⟩

/-- Reading all elements of a list gives something for each of them. -/
theorem map_eq_of_mapM (h : l.mapM part = some parts) : l.map part = parts.map some := by
  have hparts := mapM_eq_some_iff.mp h
  clear h
  induction hparts with
  | nil => rfl
  | cons hb _ ih => rw [List.map_cons, List.map_cons, hb, ih]

end Parts

/-- What is there for every element is collected. -/
theorem mapM_eq_filterMap {part : α → Option β} (h : ∀ a ∈ l, ∃ b, part a = some b) :
    l.mapM part = some (l.filterMap part) := by
  induction l with
  | nil => rfl
  | cons a l ih =>
      obtain ⟨b, hb⟩ := h a List.mem_cons_self
      simp [hb, ih fun c hc => h c (List.mem_cons_of_mem a hc)]

end Lists

end PodReach.Outcome
