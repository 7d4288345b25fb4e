import PodReach.Proofs.Forward.Events

/-!
# Why a forwarding run ends

Reading the pod after a refused tunnel is the only thing that makes it count as gone, and only the
wait ends a run: because it was stopped, or because it looks and the pod counts as gone. What
happens to a connection in between never ends anything.
-/

namespace PodReach.Forward

section Ending

variable (job : Job) (f₀ : Forwarder) (w₀ : World)

/-- The next step of a connection opens its tunnel, and is refused. -/
def Refused (i : Nat) (f : Forwarder) (w : World) : Prop :=
  ∃ h fault, f.handlers[i]? = some h ∧ h.phase = .opening ∧
    (openTunnel job h w).1 = .error (.fault fault) ∧ Refusing fault

/-- The tunnel of a connection was refused after these events, and the serving of the connection
has not gone on since. -/
def TunnelRefused (i : Nat) (events : List Event) : Prop :=
  ∃ before after, events = before ++ .progress i :: after ∧ .progress i ∉ after ∧
    ∃ f w, Reaches job f₀ w₀ before f w ∧ Refused job i f w

/-- After these events an event finds out that the pod is gone: the tunnel of a connection was
refused, and reading the pod now answers that it does not exist. -/
def FindsGone (before : List Event) (event : Event) : Prop :=
  ∃ i, event = .progress i ∧ TunnelRefused job f₀ w₀ i before ∧
    ∃ f w, Reaches job f₀ w₀ before f w ∧ PodAbsent job w

/-- After these events the wait sees that the pod is gone, and was not stopped before. -/
def SeesGone (before : List Event) (event : Event) : Prop :=
  event = .look false ∧ .look true ∉ before ∧ SomeEvent (FindsGone job f₀ w₀) before

variable {job f₀ w₀} {events : List Event} {event : Event} {f f' : Forwarder} {w w' : World}

/-! ## Finding out that the pod is gone -/

theorem tunnelRefused_snoc (h : Reaches job f₀ w₀ events f w) (event : Event) (i : Nat) :
    TunnelRefused job f₀ w₀ i (events ++ [event]) ↔
      event ≠ .progress i ∧ TunnelRefused job f₀ w₀ i events ∨
        event = .progress i ∧ Refused job i f w := by
  constructor
  · rintro ⟨before, after, heq, hafter, g, v, hreaches, hrefused⟩
    rcases last_or_earlier heq with ⟨rfl, rfl, -⟩ | ⟨rest, rfl, rfl⟩
    · obtain ⟨rfl, rfl⟩ := h.unique hreaches
      exact Or.inr ⟨rfl, hrefused⟩
    · simp only [List.mem_append, List.mem_singleton, not_or] at hafter
      exact Or.inl ⟨Ne.symm hafter.2, before, rest, rfl, hafter.1, g, v, hreaches, hrefused⟩
  · rintro (⟨hne, before, after, rfl, hafter, g, v, hreaches, hrefused⟩ | ⟨rfl, hrefused⟩)
    · refine ⟨before, after ++ [event], by simp, ?_, g, v, hreaches, hrefused⟩
      simp only [List.mem_append, List.mem_singleton, not_or]
      exact ⟨hafter, Ne.symm hne⟩
    · exact ⟨events, [], rfl, List.not_mem_nil, f, w, h, hrefused⟩

/-- One of some connections waits for the pod to be read. -/
def Checking (handlers : List Handler) (i : Nat) : Prop :=
  ∃ h, handlers[i]? = some h ∧ h.phase = .checking

theorem checking_iff {handlers : List Handler} {i : Nat} {h : Handler}
    (handler : handlers[i]? = some h) : Checking handlers i ↔ h.phase = .checking := by
  constructor
  · rintro ⟨h', hh', hchecking⟩
    cases handler.symm.trans hh'
    exact hchecking
  · exact fun hchecking => ⟨h, handler, hchecking⟩

theorem refused_iff {i : Nat} {h : Handler} (handler : f.handlers[i]? = some h) :
    Refused job i f w ↔ h.phase = .opening ∧
      ∃ fault, (openTunnel job h w).1 = .error (.fault fault) ∧ Refusing fault := by
  constructor
  · rintro ⟨h', fault, hh', hopening, hrefused⟩
    cases handler.symm.trans hh'
    exact ⟨hopening, fault, hrefused⟩
  · rintro ⟨hopening, fault, hrefused⟩
    exact ⟨h, fault, handler, hopening, hrefused⟩

/-- The step of a connection leads to the check exactly if its tunnel is refused. -/
theorem Stepped.checking_iff_refused {i : Nat} (hstep : Stepped job f w (.progress i) f' w') :
    Checking f'.handlers i ↔ Refused job i f w := by
  cases hstep with
  | unmoved _ settled =>
      constructor
      · rintro ⟨h, handler, hchecking⟩
        rcases settled h handler with hphase | ⟨r, hphase⟩ <;> cases hphase.symm.trans hchecking
      · rintro ⟨h, fault, handler, hopening, -⟩
        rcases settled h handler with hphase | ⟨r, hphase⟩ <;> cases hphase.symm.trans hopening
  | opened handler opening tunnel sockets =>
      rw [refused_iff handler, checking_iff (handlers_setPhase handler _), tunnel]
      simp
  | refused handler opening tunnel refusing sockets =>
      rw [refused_iff handler, checking_iff (handlers_setPhase handler _)]
      exact iff_of_true rfl ⟨opening, _, tunnel, refusing⟩
  | abandoned handler opening tunnel unexpected same =>
      rw [refused_iff handler, checking_iff (handlers_setPhase handler _), tunnel]
      refine iff_of_false nofun ?_
      rintro ⟨-, fault, heq, hrefusing⟩
      exact unexpected fault (Except.error.inj heq) hrefusing
  | checked handler checking absent same =>
      rw [refused_iff handler, checking_iff (handlers_setPhase handler _), checking]
      simp
  | relayed handler relaying sockets =>
      rw [refused_iff handler, checking_iff (handlers_setPhase handler _), relaying]
      simp

/-- A connection is being checked exactly if its tunnel was refused and nothing happened to it
since. -/
theorem Reaches.checking_iff (hhandlers : f₀.handlers = []) (h : Reaches job f₀ w₀ events f w)
    (i : Nat) : Checking f.handlers i ↔ TunnelRefused job f₀ w₀ i events := by
  refine h.invariant
    (P := fun events f _ => Checking f.handlers i ↔ TunnelRefused job f₀ w₀ i events) ?_ ?_
  · refine iff_of_false ?_ ?_
    · rintro ⟨h, handler, -⟩
      rw [hhandlers] at handler
      cases handler
    · rintro ⟨before, after, heq, -⟩
      simp at heq
  · intro events f w event f' w' hreaches ih hstep
    rw [tunnelRefused_snoc hreaches]
    by_cases hevent : event = .progress i
    · subst hevent
      rw [hstep.checking_iff_refused]
      simp
    · rw [← ih]
      simp only [hevent, ne_eq, not_false_eq_true, true_and, false_and, or_false]
      unfold Checking
      rcases hstep.other hevent with hsame | ⟨hnone, h, hnew, hopening⟩
      · rw [hsame]
      · rw [hnone, hnew]
        simp [hopening]

/-- A step makes the pod count as gone exactly if it reads that the pod does not exist. -/
theorem Stepped.gone_iff (hstep : Stepped job f w event f' w') :
    f'.gone = true ↔ f.gone = true ∨
      ∃ i, event = .progress i ∧ Checking f.handlers i ∧ PodAbsent job w := by
  cases hstep with
  | idle i same => simp
  | deafened i socket same => simp
  | accepted i l connection running sockets => simp
  | unmoved i settled =>
      have hchecking : ¬ Checking f.handlers i := by
        rintro ⟨h, handler, hphase⟩
        rcases settled h handler with hsettled | ⟨r, hsettled⟩ <;> cases hsettled.symm.trans hphase
      simp [hchecking]
  | opened handler opening tunnel sockets =>
      simp [checking_iff handler, opening, Forwarder.setPhase]
  | refused handler opening tunnel refusing sockets =>
      simp [checking_iff handler, opening, Forwarder.setPhase]
  | abandoned handler opening tunnel unexpected same =>
      simp [checking_iff handler, opening, Forwarder.setPhase]
  | checked handler checking absent same => simp [checking_iff handler, checking, absent]
  | relayed handler relaying sockets => simp [checking_iff handler, relaying, Forwarder.setPhase]
  | finished stopped ended => simp
  | waits running there => simp
  | ends running cause sockets => simp

/-- The pod counts as gone exactly if some event found that out. -/
theorem Reaches.gone_iff (hhandlers : f₀.handlers = []) (hgone : f₀.gone = false)
    (h : Reaches job f₀ w₀ events f w) :
    f.gone = true ↔ SomeEvent (FindsGone job f₀ w₀) events := by
  refine h.invariant (P := fun events f _ =>
    f.gone = true ↔ SomeEvent (FindsGone job f₀ w₀) events) ?_ ?_
  · rw [hgone]
    exact iff_of_false Bool.false_ne_true (not_someEvent_nil _)
  · intro events f w event f' w' hreaches ih hstep
    have hfinds : FindsGone job f₀ w₀ events event ↔
        ∃ i, event = .progress i ∧ Checking f.handlers i ∧ PodAbsent job w := by
      constructor
      · rintro ⟨i, heq, hrefused, g, v, hreaches', habsent⟩
        obtain ⟨rfl, rfl⟩ := hreaches.unique hreaches'
        exact ⟨i, heq, (hreaches.checking_iff hhandlers i).mpr hrefused, habsent⟩
      · rintro ⟨i, heq, hchecking, habsent⟩
        exact ⟨i, heq, (hreaches.checking_iff hhandlers i).mp hchecking, f, w, hreaches, habsent⟩
    rw [someEvent_snoc, ← ih, hfinds]
    exact hstep.gone_iff

/-! ## The end of the wait -/

/-- How a run has ended after one more event, if it has: only the wait ends it. -/
def endingAfter (job : Job) (f : Forwarder) : Event → Option Ending
  | .poll _ | .progress _ => f.ending
  | .look stopped =>
    if f.ending.isSome then f.ending
    else if stopped then some .stopped
    else if f.gone then some (.failed (.podGone (Text.orNone job.podName)))
    else none

theorem Stepped.ending_eq (hstep : Stepped job f w event f' w') :
    f'.ending = endingAfter job f event := by
  cases hstep with
  | finished stopped ended =>
      rw [endingAfter, if_pos (Option.isSome_iff_ne_none.mpr ended)]
  | waits running there => simp [endingAfter, running, there]
  | ends running cause sockets =>
      rcases cause with ⟨rfl, rfl⟩ | ⟨rfl, hgone, rfl⟩
      · simp [endingAfter, running]
      · simp [endingAfter, running, hgone]
  | _ => rfl

/-- A run that has ended stays as it ended. -/
theorem endingAfter_of_some {ending : Ending} (h : f.ending = some ending) (event : Event) :
    endingAfter job f event = some ending := by
  cases event with
  | look stopped =>
      rw [endingAfter, h]
      rfl
  | _ => exact h

/-- How a run has ended after these events, if it has: it saw that the pod was gone, or else it was
stopped. -/
structure EndsFor (job : Job) (f₀ : Forwarder) (w₀ : World) (events : List Event)
    (ending : Option Ending) : Prop where
  gone : SomeEvent (SeesGone job f₀ w₀) events →
    ending = some (.failed (.podGone (Text.orNone job.podName)))
  stopped : ¬ SomeEvent (SeesGone job f₀ w₀) events → .look true ∈ events →
    ending = some .stopped
  running : ¬ SomeEvent (SeesGone job f₀ w₀) events → .look true ∉ events → ending = none

namespace EndsFor

variable {ending : Option Ending}

theorem trichotomy (h : EndsFor job f₀ w₀ events ending) :
    (SomeEvent (SeesGone job f₀ w₀) events ∧
        ending = some (.failed (.podGone (Text.orNone job.podName)))) ∨
      ¬ SomeEvent (SeesGone job f₀ w₀) events ∧
        (.look true ∈ events ∧ ending = some .stopped ∨ .look true ∉ events ∧ ending = none) := by
  by_cases hseen : SomeEvent (SeesGone job f₀ w₀) events
  · exact Or.inl ⟨hseen, h.gone hseen⟩
  · refine Or.inr ⟨hseen, ?_⟩
    by_cases hstopped : .look true ∈ events
    · exact Or.inl ⟨hstopped, h.stopped hseen hstopped⟩
    · exact Or.inr ⟨hstopped, h.running hseen hstopped⟩

theorem eq_gone_iff (h : EndsFor job f₀ w₀ events ending) :
    ending = some (.failed (.podGone (Text.orNone job.podName))) ↔
      SomeEvent (SeesGone job f₀ w₀) events := by
  rcases h.trichotomy with ⟨hseen, rfl⟩ | ⟨hseen, ⟨hstopped, rfl⟩ | ⟨hstopped, rfl⟩⟩ <;>
    simp [hseen]

theorem eq_stopped_iff (h : EndsFor job f₀ w₀ events ending) : ending = some .stopped ↔
    .look true ∈ events ∧ ¬ SomeEvent (SeesGone job f₀ w₀) events := by
  rcases h.trichotomy with ⟨hseen, rfl⟩ | ⟨hseen, ⟨hstopped, rfl⟩ | ⟨hstopped, rfl⟩⟩ <;>
    simp [hseen] <;> assumption

theorem eq_none_iff (h : EndsFor job f₀ w₀ events ending) : ending = none ↔
    .look true ∉ events ∧ ¬ SomeEvent (SeesGone job f₀ w₀) events := by
  rcases h.trichotomy with ⟨hseen, rfl⟩ | ⟨hseen, ⟨hstopped, rfl⟩ | ⟨hstopped, rfl⟩⟩ <;>
    simp [hseen] <;> assumption

end EndsFor

theorem Reaches.endsFor (hhandlers : f₀.handlers = []) (hgone : f₀.gone = false)
    (hending : f₀.ending = none) (h : Reaches job f₀ w₀ events f w) :
    EndsFor job f₀ w₀ events f.ending := by
  refine h.invariant (P := fun events f _ => EndsFor job f₀ w₀ events f.ending) ?_ ?_
  · exact ⟨fun hsome => absurd hsome (not_someEvent_nil _), nofun, fun _ _ => hending⟩
  · intro events f w event f' w' hreaches ih hstep
    have hsees : SeesGone job f₀ w₀ events event ↔
        event = .look false ∧ .look true ∉ events ∧ f.gone = true := by
      rw [SeesGone, hreaches.gone_iff hhandlers hgone]
    have hlook : .look true ∈ events ++ [event] ↔ .look true ∈ events ∨ event = .look true := by
      simp [eq_comm]
    rw [hstep.ending_eq]
    constructor
    · rw [someEvent_snoc, hsees]
      intro hlost
      by_cases hbefore : SomeEvent (SeesGone job f₀ w₀) events
      · exact endingAfter_of_some (ih.gone hbefore) event
      · obtain ⟨rfl, hnever, hseen⟩ := hlost.resolve_left hbefore
        simp [endingAfter, ih.running hbefore hnever, hseen]
    · rw [someEvent_snoc, not_or, hlook]
      rintro ⟨hbefore, -⟩ hstopped
      by_cases hearlier : .look true ∈ events
      · exact endingAfter_of_some (ih.stopped hbefore hearlier) event
      · obtain rfl := hstopped.resolve_left hearlier
        simp [endingAfter, ih.running hbefore hearlier]
    · rw [someEvent_snoc, not_or, hsees, hlook, not_or]
      rintro ⟨hbefore, hunseen⟩ ⟨hnever, hnot⟩
      have hrunning := ih.running hbefore hnever
      cases event with
      | poll i => exact hrunning
      | progress i => exact hrunning
      | look stopped =>
          cases stopped with
          | true => exact absurd rfl hnot
          | false =>
              have hthere : f.gone = false := by simpa [hnever] using hunseen
              simp [endingAfter, hrunning, hthere]

end Ending

end PodReach.Forward
