import Mathlib.Data.List.Induction
import PodReach.Proofs.Forward.Steps

/-!
# The events of a forwarding run

A run is followed event by event: what happened before an event is a list of events, and the state
there is the one that following them leads to. Every list of events leads somewhere, and to one
state only; what every step keeps is kept all the way.
-/

namespace PodReach.Forward

/-! ## Events in their order -/

/-- Some event of a list has a property together with the events before it. -/
def SomeEvent (p : List Event → Event → Prop) (events : List Event) : Prop :=
  ∃ before event after, events = before ++ event :: after ∧ p before event

theorem not_someEvent_nil (p : List Event → Event → Prop) : ¬ SomeEvent p [] := by
  rintro ⟨before, event, after, h, -⟩
  simp at h

/-- An event of a list with one more event is that one, or is in the list itself. -/
theorem last_or_earlier {events before after : List Event} {event found : Event}
    (h : events ++ [event] = before ++ found :: after) :
    (before = events ∧ found = event ∧ after = []) ∨
      ∃ rest, events = before ++ found :: rest ∧ after = rest ++ [event] := by
  rcases List.eq_nil_or_concat after with rfl | ⟨rest, last, rfl⟩
  · obtain ⟨rfl, hevent⟩ := List.append_inj' h rfl
    exact Or.inl ⟨rfl, (List.singleton_inj.mp hevent).symm, rfl⟩
  · have h' : events ++ [event] = (before ++ found :: rest) ++ [last] := by simpa using h
    obtain ⟨rfl, hevent⟩ := List.append_inj' h' rfl
    obtain rfl := List.singleton_inj.mp hevent
    exact Or.inr ⟨rest, rfl, List.concat_eq_append⟩

/-- One more event adds itself, after all others. -/
theorem someEvent_snoc (p : List Event → Event → Prop) (events : List Event) (event : Event) :
    SomeEvent p (events ++ [event]) ↔ SomeEvent p events ∨ p events event := by
  constructor
  · rintro ⟨before, found, after, h, hp⟩
    rcases last_or_earlier h with ⟨rfl, rfl, -⟩ | ⟨rest, rfl, -⟩
    · exact Or.inr hp
    · exact Or.inl ⟨before, found, rest, rfl, hp⟩
  · rintro (⟨before, found, after, rfl, hp⟩ | hp)
    · exact ⟨before, found, after ++ [event], by simp, hp⟩
    · exact ⟨events, event, [], rfl, hp⟩

theorem follow_append (job : Job) (f : Forwarder) (events later : List Event) (w : World) :
    follow job f (events ++ later) w =
      (follow job f events >>= fun next => follow job next later) w := by
  induction events generalizing f w with
  | nil => exact (congrFun (pure_bind f fun next => follow job next later) w).symm
  | cons first rest ih =>
      change (step job f first >>= fun next => follow job next (rest ++ later)) w =
        ((step job f first >>= fun next => follow job next rest) >>= fun next =>
          follow job next later) w
      rw [bind_assoc, Run.bind_apply, Run.bind_apply]
      rcases step job f first w with ⟨halt | next, v⟩
      · rfl
      · exact ih next v

theorem follow_singleton (job : Job) (f : Forwarder) (event : Event) (w : World) :
    follow job f [event] w = step job f event w :=
  congrFun (bind_pure (step job f event)) w

section Run

variable (job : Job) (f₀ : Forwarder) (w₀ : World)

/-- Following events leads to a state and a world. -/
def Reaches (events : List Event) (f : Forwarder) (w : World) : Prop :=
  follow job f₀ events w₀ = (.ok f, w)

variable {job f₀ w₀} {events : List Event} {f f' : Forwarder} {w w' : World}

theorem Reaches.start : Reaches job f₀ w₀ [] f₀ w₀ := rfl

theorem Reaches.unique (h : Reaches job f₀ w₀ events f w) (h' : Reaches job f₀ w₀ events f' w') :
    f = f' ∧ w = w' := by
  obtain ⟨hf, hw⟩ := Prod.mk.inj ((Eq.symm h).trans h')
  exact ⟨Except.ok.inj hf, hw⟩

/-- One more event is one more step. -/
theorem Reaches.next (h : Reaches job f₀ w₀ events f w) (event : Event) :
    ∃ f' w', Reaches job f₀ w₀ (events ++ [event]) f' w' ∧ Stepped job f w event f' w' := by
  obtain ⟨f', w', hstep, hstepped⟩ := step_cases job f event w
  refine ⟨f', w', ?_, hstepped⟩
  unfold Reaches
  rw [follow_append, Run.bind_of_ok h, follow_singleton, hstep]

/-- A run that is followed further goes on from where it got. -/
theorem Reaches.rest {later : List Event} (h : Reaches job f₀ w₀ events f w)
    (h' : Reaches job f₀ w₀ (events ++ later) f' w') : Reaches job f w later f' w' := by
  unfold Reaches at h'
  rw [follow_append, Run.bind_of_ok h] at h'
  exact h'

variable (job f₀ w₀) in
/-- Every run can be followed. -/
theorem exists_reaches (events : List Event) : ∃ f w, Reaches job f₀ w₀ events f w := by
  induction events using List.reverseRecOn with
  | nil => exact ⟨f₀, w₀, .start⟩
  | append_singleton events event ih =>
      obtain ⟨f, w, h⟩ := ih
      obtain ⟨f', w', h', -⟩ := h.next event
      exact ⟨f', w', h'⟩

/-- What holds at the start and is kept by every step holds wherever a run gets. -/
theorem Reaches.invariant {P : List Event → Forwarder → World → Prop} (hstart : P [] f₀ w₀)
    (hstep : ∀ {events f w event f' w'}, Reaches job f₀ w₀ events f w → P events f w →
      Stepped job f w event f' w' → P (events ++ [event]) f' w')
    (h : Reaches job f₀ w₀ events f w) : P events f w := by
  induction events using List.reverseRecOn generalizing f w with
  | nil =>
      obtain ⟨rfl, rfl⟩ := h.unique .start
      exact hstart
  | append_singleton events event ih =>
      obtain ⟨g, v, hbefore⟩ := exists_reaches job f₀ w₀ events
      obtain ⟨f', w', hnext, hstepped⟩ := hbefore.next event
      obtain ⟨rfl, rfl⟩ := h.unique hnext
      exact hstep hbefore (ih hbefore) hstepped

end Run

end PodReach.Forward
