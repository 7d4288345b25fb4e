import PodReach.World.Markup

/-!
# Texts that can be rendered

Of a console only this is known, that it renders texts without tags and texts with one simple tag
that is closed. Reports are of the second kind as long as nothing in the message looks like a tag or
has no encoding.
A console that counts brackets shows that no more than this can be relied on: it renders such texts
and refuses those that close what they have not opened.
-/

namespace PodReach.Markup

variable {markup : Markup}

theorem renders_empty : markup.renders "" = true :=
  markup.tagless "" (by decide)

/-- A text between a simple tag and its closing can be rendered. -/
theorem renders_word {text tag inner : String} (htag : isWord tag = true)
    (hinner : isPlain inner = true) (htext : text = tagged "" tag inner "") :
    markup.renders text = true := by
  rw [htext]
  exact markup.word "" tag inner "" (by decide) htag hinner (by decide)

/-! ## Counting brackets -/

/-- How many opening brackets a text has. -/
def brackets (text : String) : Nat := text.toList.count '['

theorem brackets_append (s t : String) : brackets (s ++ t) = brackets s + brackets t := by
  simp [brackets]

theorem brackets_of_isTagless {text : String} (h : isTagless text = true) : brackets text = 0 := by
  have hnone := (Bool.and_eq_true_iff.mp h).2
  simpa [brackets, List.count_eq_zero] using hnone

theorem isTagless_of_isPlain {text : String} (h : isPlain text = true) : isTagless text = true :=
  (Bool.and_eq_true_iff.mp h).1

theorem brackets_of_isWord {tag : String} (h : isWord tag = true) : brackets tag = 0 := by
  have hlower := List.all_eq_true.mp (Bool.and_eq_true_iff.mp h).2
  exact List.count_eq_zero.mpr fun hmem => absurd (hlower _ hmem) (by decide)

/-- A console that renders a text with one tag that is closed, and no text with further brackets. -/
def strict : Markup where
  renders text := brackets text ≤ 2
  tagless text h := by simp [brackets_of_isTagless h]
  word before tag inner after hbefore htag hinner hafter := by
    have hbracket : brackets "[" = 1 := by decide
    have hclosing : brackets "[/" = 1 := by decide
    have hend : brackets "]" = 0 := by decide
    simp only [tagged, brackets_append, brackets_of_isTagless (isTagless_of_isPlain hbefore),
      brackets_of_isWord htag, brackets_of_isTagless (isTagless_of_isPlain hinner),
      brackets_of_isTagless hafter, hbracket, hclosing, hend]
    decide

end PodReach.Markup
