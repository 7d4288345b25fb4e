import Mathlib.Order.Defs.Unbundled
import PodReach.LogFile
import PodReach.Proofs.World.Journal

/-!
# What a run leaves as it was

Many facts about a run relate the world it leaves to the one it began in, whatever its outcome: the
journal has only grown, nothing was asked, nothing was opened. Such a fact holds of a run if it
holds of its parts, as long as the relation is reflexive and transitive.
-/

namespace PodReach

namespace Run

variable {α β : Type} {R : World → World → Prop} {action : Run α} {next : α → Run β}
  {cleanup : Run Unit}

theorem attempt_apply (action : Run α) (w : World) :
    attempt action w = (.ok (action w).1, (action w).2) := rfl

/-- A cleanup that succeeds does not change an outcome. -/
theorem always_of_ok {w w' : World} (h : cleanup (action w).2 = (.ok (), w')) :
    always action cleanup w = ((action w).1, w') := by
  unfold always
  rcases haction : action w with ⟨_ | _, v⟩ <;> rw [haction] at h <;> simp only [h]

/-- However an action ends, the world that it leaves is in this relation to the one it began in. -/
def Keeps (R : World → World → Prop) (action : Run α) : Prop :=
  ∀ w, R w (action w).2

theorem Keeps.of_run {w w' : World} {outcome : Except Halt α} (h : Keeps R action)
    (hrun : action w = (outcome, w')) : R w w' := by
  have hw := h w
  rw [hrun] at hw
  exact hw

/-- An action that leaves the world alone keeps everything. -/
theorem keeps_of_idle [Std.Refl R] {outcome : World → Except Halt α}
    (h : ∀ w, action w = (outcome w, w)) : Keeps R action := by
  intro w
  rw [h w]
  exact Std.Refl.refl w

theorem Keeps.bind [IsTrans World R] (h : Keeps R action) (hnext : ∀ a, Keeps R (next a)) :
    Keeps R (action >>= next) := by
  intro w
  have hfirst := h w
  rw [bind_apply]
  rcases hrun : action w with ⟨halt | a, w'⟩ <;> rw [hrun] at hfirst
  · exact hfirst
  · exact IsTrans.trans _ _ _ hfirst (hnext a w')

theorem Keeps.attempt (h : Keeps R action) : Keeps R (attempt action) := h

theorem Keeps.always [IsTrans World R] (h : Keeps R action) (hclean : Keeps R cleanup) :
    Keeps R (always action cleanup) := by
  intro w
  rw [always_world]
  exact IsTrans.trans _ _ _ (h w) (hclean _)

theorem Keeps.tryCatch [IsTrans World R] {handler : Halt → Run α} (h : Keeps R action)
    (hhandler : ∀ halt, Keeps R (handler halt)) : Keeps R (tryCatch action handler) := by
  intro w
  have hfirst := h w
  rw [tryCatch_apply]
  rcases hrun : action w with ⟨halt | a, w'⟩ <;> rw [hrun] at hfirst
  · exact IsTrans.trans _ _ _ hfirst (hhandler halt w')
  · exact hfirst

/-- An action that is done only under a condition may come first. -/
theorem keeps_when [IsTrans World R] {c : Prop} [Decidable c] {first : Run PUnit}
    {next : PUnit → Run α} (hfirst : Keeps R first) (hnext : Keeps R (next ⟨⟩)) :
    Keeps R (if c then first >>= next else next ⟨⟩) := by
  split
  · exact hfirst.bind fun _ => hnext
  · exact hnext

section Idle

variable [Std.Refl R]

theorem keeps_pure (a : α) : Keeps R (pure a : Run α) :=
  keeps_of_idle fun _ => rfl

theorem keeps_throw (halt : Halt) : Keeps R (throw halt : Run α) :=
  keeps_of_idle fun _ => rfl

theorem keeps_get : Keeps R (get : Run World) :=
  keeps_of_idle get_apply

theorem keeps_ofExcept (outcome : Except Halt α) : Keeps R (ofExcept outcome : Run α) :=
  keeps_of_idle (ofExcept_apply outcome)

theorem keeps_need (part : Option α) : Keeps R (need part) := by
  cases part with
  | some a => exact keeps_pure a
  | none => exact keeps_throw _

theorem keeps_unlessBroken (fault : Option Fault) : Keeps R (unlessBroken fault) :=
  keeps_of_idle (unlessBroken_apply fault)

theorem keeps_forM [IsTrans World R] {l : List β} {body : β → Run PUnit}
    (h : ∀ b ∈ l, Keeps R (body b)) : Keeps R (l.forM body) := by
  induction l with
  | nil => exact keeps_pure _
  | cons b l ih =>
      have hrest : Keeps R (l.forM body) := ih fun c hc => h c (List.mem_cons_of_mem b hc)
      exact (h b List.mem_cons_self).bind fun _ => hrest

end Idle

/-! ## Runs that succeed -/

/-- An action always has a result, and the world that it leaves is in this relation to the one it
began in. -/
def Succeeds (R : World → World → Prop) (action : Run α) : Prop :=
  ∀ w, ∃ a w', action w = (.ok a, w') ∧ R w w'

theorem Succeeds.bind [IsTrans World R] (h : Succeeds R action)
    (hnext : ∀ a, Succeeds R (next a)) : Succeeds R (action >>= next) := by
  intro w
  obtain ⟨a, w', hfirst, hkept⟩ := h w
  obtain ⟨b, w'', hsecond, hkept'⟩ := hnext a w'
  exact ⟨b, w'', (bind_of_ok hfirst).trans hsecond, IsTrans.trans _ _ _ hkept hkept'⟩

theorem succeeds_pure [Std.Refl R] (a : α) : Succeeds R (pure a : Run α) :=
  fun w => ⟨a, w, rfl, Std.Refl.refl w⟩

end Run

/-! ## The console -/

namespace Console

open Run

section

variable {α : Type} {R : World → World → Prop} [Std.Refl R] [IsTrans World R]

/-- What is kept when an interrupt comes is kept by listening for one. -/
theorem keeps_interruptAfter
    (hheard : Keeps R (modify fun w => { w with interruptOn := none } : Run Unit)) (text : String) :
    Keeps R (interruptAfter text) := by
  refine keeps_get.bind fun v => ?_
  split
  · split
    · exact hheard.bind fun _ => keeps_throw _
    · exact keeps_pure _
  · exact keeps_pure _

/-- Texts are rendered up to the first one for which that is not possible. -/
theorem render_apply (texts : List String) (w : World) :
    render texts w =
      (match texts.find? fun text => !w.markup.renders text with
        | some text => .error (.unrendered text)
        | none => .ok (), w) := by
  unfold render
  rw [bind_of_ok (get_apply w)]
  rcases texts.find? fun text => !w.markup.renders text with _ | text <;> rfl

theorem render_of_renders {texts : List String} {w : World}
    (h : ∀ text ∈ texts, w.markup.renders text = true) : render texts w = (.ok (), w) := by
  have hall : texts.find? (fun text => !w.markup.renders text) = none :=
    List.find?_eq_none.mpr fun text hmem => by simp [h text hmem]
  rw [render_apply, hall]

/-- Otherwise one of them cannot be rendered, and the first such one is told. -/
theorem render_of_not_renders {texts : List String} {w : World}
    (h : ¬ ∀ text ∈ texts, w.markup.renders text = true) : ∃ text ∈ texts,
      w.markup.renders text = false ∧ render texts w = (.error (.unrendered text), w) := by
  rw [render_apply]
  rcases hfind : texts.find? fun text => !w.markup.renders text with _ | text
  · refine absurd (fun text hmem => ?_) h
    simpa using List.find?_eq_none.mp hfind text hmem
  · exact ⟨text, List.mem_of_find?_eq_some hfind, by simpa using List.find?_some hfind, rfl⟩

theorem render_of_unrendered {text : String} {w : World} (h : w.markup.renders text = false) :
    render [text] w = (.error (.unrendered text), w) := by
  rw [render_apply, List.find?_singleton, h]
  rfl

omit [IsTrans World R] in
theorem keeps_render (texts : List String) : Keeps R (render texts) :=
  keeps_of_idle (render_apply texts)

/-- What is kept when a line is written down and when an interrupt comes is kept by printing. -/
theorem keeps_line {text : String} (hshown : Keeps R (record (.display (.line text))))
    (hheard : Keeps R (modify fun w => { w with interruptOn := none } : Run Unit)) :
    Keeps R (line text) :=
  (keeps_render [text]).bind fun _ => hshown.bind fun _ => keeps_interruptAfter hheard text

theorem keeps_table {t : Table} (hshown : Keeps R (record (.display (.table t)))) :
    Keeps R (table t) :=
  (keeps_render t.texts).bind fun _ => hshown

theorem keeps_spinner {text : String} (hshown : Keeps R (record (.display (.spinner text)))) :
    Keeps R (spinner text) :=
  (keeps_render [text]).bind fun _ => hshown

/-- What is kept when an answer is taken off those to come is kept by asking for one. -/
theorem keeps_nextAnswer
    (htaken : ∀ answers, Keeps R (modify fun w => { w with answers := answers } : Run Unit)) :
    Keeps R nextAnswer := by
  refine keeps_get.bind fun v => ?_
  split
  · exact keeps_throw _
  · refine (htaken _).bind fun _ => ?_
    split
    · exact keeps_throw _
    · exact keeps_throw _
    · exact keeps_pure _

theorem keeps_choose {message : String} {choices : List (String × α)} {preset : Option String}
    (hshown : Keeps R (display (.choice message (choices.map (·.1)) preset)))
    (htaken : ∀ answers, Keeps R (modify fun w => { w with answers := answers } : Run Unit)) :
    Keeps R (choose message choices preset) := by
  refine hshown.bind fun _ => (keeps_nextAnswer htaken).bind fun answer => ?_
  split
  · split
    · exact keeps_pure _
    · exact keeps_throw _
  · exact keeps_throw _

end

end Console

/-! ## Log files -/

namespace Log

open Run

/-- Opening a log file is a matter of the open logs alone. -/
theorem openFile_world (name : String) (w : World) :
    ∃ logs, (openFile name w).2 = { w with logs := logs } := by
  unfold openFile
  rw [bind_of_ok (get_apply w), bind_apply, ofExcept_apply]
  rcases LogFile.openIn (w.logFault w.logDirectory name) w.logDirectory name w.logs with _ | found
  · exact ⟨w.logs, rfl⟩
  · exact ⟨found.2, rfl⟩

theorem keeps_openFile {R : World → World → Prop}
    (hopened : ∀ w logs, R w { w with logs := logs }) (name : String) :
    Keeps R (openFile name) := by
  intro w
  obtain ⟨logs, hworld⟩ := openFile_world name w
  rw [hworld]
  exact hopened w logs

end Log

namespace World

/-- The journal of a world continues that of another. -/
def Grew (w w' : World) : Prop :=
  w.journal.toList <+: w'.journal.toList

instance : Std.Refl Grew :=
  ⟨fun _ => List.prefix_rfl⟩

instance : IsTrans World Grew :=
  ⟨fun _ _ _ => List.IsPrefix.trans⟩

theorem grew_noted (w : World) (entries : List Entry) : w.Grew (w.noted entries) := by
  rw [Grew, journal_noted]
  exact List.prefix_append _ _

end World

theorem Run.grew_record (entry : Entry) : Keeps World.Grew (record entry) := by
  intro w
  rw [record_apply]
  exact w.grew_noted _

end PodReach
