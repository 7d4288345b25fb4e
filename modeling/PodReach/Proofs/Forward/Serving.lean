import PodReach.Proofs.Forward.Events

/-!
# Serving connections

Two steps serve a connection: its tunnel is opened, and then either the relay runs or the pod is
read. Whatever comes in between, a served connection leaves neither its own socket nor that of its
tunnel open, and a run that is over leaves no listener open.
-/

namespace PodReach.Forward

variable {job : Job} {f₀ : Forwarder} {w₀ : World} {events : List Event} {event : Event}
  {f f' : Forwarder} {w w' : World}

/-! ## What is left open -/

/-- The sockets of a connection are accounted for: a connection that waits for the pod to be read
is closed, and one that is served has left nothing open. -/
structure TidyHandler (tunnels : List Nat) (s : Sockets) (h : Handler) : Prop where
  numbered : h.socket < s.asked
  checking : h.phase = .checking → ¬ s.IsOpen h.socket
  relaying : ∀ remote report, h.phase = .relaying remote report → remote < s.asked
  served : ∀ remote, h.phase = .served remote → ¬ s.IsOpen h.socket ∧
    ∀ r, remote = some r → r < s.asked ∧ ¬ s.IsOpen r ∧ r ∉ tunnels

/-- The sockets of a run are accounted for. -/
structure Tidy (f : Forwarder) (s : Sockets) : Prop where
  listeners : ∀ l ∈ f.listeners, l.socket < s.asked
  closed : f.ending ≠ none → ∀ l ∈ f.listeners, ¬ s.IsOpen l.socket
  handlers : ∀ h ∈ f.handlers, TidyHandler f.tunnels s h

/-- Connections stay accounted for when only new tunnels are opened. -/
theorem TidyHandler.later {tunnels tunnels' : List Nat} {s s' : Sockets} {h : Handler}
    (htidy : TidyHandler tunnels s h) (later : s.Later s')
    (hnew : ∀ r ∈ tunnels', r ∈ tunnels ∨ s.asked ≤ r) : TidyHandler tunnels' s' h where
  numbered := Nat.lt_of_lt_of_le htidy.numbered later.asked
  checking := fun hchecking hopen =>
    htidy.checking hchecking (later.opened _ htidy.numbered hopen)
  relaying := fun remote report hrelaying =>
    Nat.lt_of_lt_of_le (htidy.relaying remote report hrelaying) later.asked
  served := by
    intro remote hserved
    obtain ⟨hlocal, hremote⟩ := htidy.served remote hserved
    refine ⟨fun hopen => hlocal (later.opened _ htidy.numbered hopen), fun r hr => ?_⟩
    obtain ⟨hasked, hclosed, hgone⟩ := hremote r hr
    refine ⟨Nat.lt_of_lt_of_le hasked later.asked,
      fun hopen => hclosed (later.opened r hasked hopen), fun hmem => ?_⟩
    rcases hnew r hmem with hold | hfresh
    · exact hgone hold
    · exact absurd hasked (Nat.not_lt.mpr hfresh)

/-- A step keeps a run tidy if it reopens nothing and its new or changed connections are
accounted for. -/
theorem Tidy.step {s s' : Sockets} (htidy : Tidy f s) (later : s.Later s')
    (hlisteners : f'.listeners = f.listeners)
    (hended : f'.ending ≠ none → f.ending ≠ none ∨ ∀ l ∈ f.listeners, ¬ s'.IsOpen l.socket)
    (hnew : ∀ r ∈ f'.tunnels, r ∈ f.tunnels ∨ s.asked ≤ r)
    (hhandlers : ∀ h ∈ f'.handlers, h ∈ f.handlers ∨ TidyHandler f'.tunnels s' h) :
    Tidy f' s' where
  listeners := by
    rw [hlisteners]
    exact fun l hl => Nat.lt_of_lt_of_le (htidy.listeners l hl) later.asked
  closed := by
    rw [hlisteners]
    intro hending l hl hopen
    rcases hended hending with hbefore | hnow
    · exact htidy.closed hbefore l hl (later.opened _ (htidy.listeners l hl) hopen)
    · exact hnow l hl hopen
  handlers := by
    intro h hh
    rcases hhandlers h hh with hold | hfresh
    · exact (htidy.handlers h hold).later later hnew
    · exact hfresh

/-- The step of a connection keeps a run tidy if the connection is accounted for in its new
phase. -/
theorem Tidy.setPhase {s s' : Sockets} {i : Nat} {h : Handler} {phase : Phase} (htidy : Tidy f s)
    (handler : f.handlers[i]? = some h) (later : s.Later s')
    (hhandlers : f'.handlers = (f.setPhase i h phase).handlers)
    (hlisteners : f'.listeners = f.listeners) (hending : f'.ending = f.ending)
    (hnew : ∀ r ∈ f'.tunnels, r ∈ f.tunnels ∨ s.asked ≤ r)
    (hphase : TidyHandler f'.tunnels s' h → TidyHandler f'.tunnels s' { h with phase := phase }) :
    Tidy f' s' := by
  have hold := (htidy.handlers h (List.mem_of_getElem? handler)).later later hnew
  refine htidy.step later hlisteners (hending ▸ Or.inl) hnew ?_
  rw [hhandlers]
  intro other hother
  rcases List.mem_or_eq_of_mem_set hother with hkept | rfl
  · exact Or.inl hkept
  · exact Or.inr (hphase hold)

/-- No step loses track of a socket. -/
theorem Stepped.tidy (hstep : Stepped job f w event f' w') (htidy : Tidy f w.network.sockets) :
    Tidy f' w'.network.sockets := by
  have hkept : ∀ r ∈ f.tunnels, r ∈ f.tunnels ∨ w.network.sockets.asked ≤ r := fun r => Or.inl
  cases hstep with
  | idle i same => exact htidy.step same.later rfl Or.inl hkept fun _ => Or.inl
  | deafened i socket same => exact htidy.step same.later rfl Or.inl hkept fun _ => Or.inl
  | accepted i l connection running sockets =>
      rw [sockets]
      refine htidy.step (.added _) rfl Or.inl hkept fun h hmem => ?_
      rcases List.mem_append.mp hmem with hold | hnew
      · exact Or.inl hold
      · rw [List.mem_singleton.mp hnew]
        exact Or.inr ⟨Nat.lt_succ_self _, nofun, nofun, nofun⟩
  | unmoved i settled => exact htidy
  | opened handler opening tunnel sockets =>
      rw [sockets]
      refine htidy.setPhase handler (.added _) rfl rfl rfl (fun r hmem => ?_) fun hold => ?_
      · rcases List.mem_append.mp hmem with hold | hnew
        · exact Or.inl hold
        · exact Or.inr (Nat.le_of_eq (List.mem_singleton.mp hnew).symm)
      · refine ⟨hold.numbered, nofun, ?_, nofun⟩
        rintro remote report ⟨⟩
        exact Nat.lt_succ_self _
  | refused handler opening tunnel refusing sockets =>
      rw [sockets]
      refine htidy.setPhase handler (.without _ _) rfl rfl rfl hkept fun hold => ?_
      exact ⟨hold.numbered, fun _ => Sockets.not_isOpen_without _ _, nofun, nofun⟩
  | abandoned handler opening tunnel unexpected same =>
      refine htidy.setPhase handler same.later rfl rfl rfl hkept fun hold => ?_
      exact ⟨hold.numbered, nofun, nofun, nofun⟩
  | checked handler checking absent same =>
      refine htidy.setPhase handler same.later rfl rfl rfl hkept fun hold => ?_
      refine ⟨hold.numbered, nofun, nofun, ?_⟩
      rintro remote ⟨⟩
      exact ⟨hold.checking checking, nofun⟩
  | relayed handler relaying sockets =>
      rw [sockets]
      refine htidy.setPhase handler (Sockets.Later.trans (.without _ _) (.without _ _)) rfl rfl rfl
        (fun r hmem => Or.inl (List.mem_filter.mp hmem).1) fun hold => ?_
      refine ⟨hold.numbered, nofun, nofun, ?_⟩
      rintro remote ⟨⟩
      refine ⟨fun hopen => ?_, ?_⟩
      · have hlocal := ((Sockets.isOpen_without _).mp hopen).1
        exact Sockets.not_isOpen_without _ _ hlocal
      · rintro r ⟨⟩
        exact ⟨hold.relaying _ _ relaying, Sockets.not_isOpen_without _ _, by simp⟩
  | finished stopped ended => exact htidy
  | waits running there => exact htidy
  | ends running cause sockets =>
      rw [sockets]
      refine htidy.step (.withoutAll _ _) rfl (fun _ => Or.inr fun l hl hopen => ?_) nofun
        fun _ => Or.inl
      have hclosed := ((Sockets.isOpen_withoutAll _).mp hopen).2
      exact hclosed (List.mem_append_left _ (List.mem_map_of_mem hl))

theorem Reaches.tidy (htidy : Tidy f₀ w₀.network.sockets) (h : Reaches job f₀ w₀ events f w) :
    Tidy f w.network.sockets :=
  h.invariant (P := fun _ f w => Tidy f w.network.sockets) htidy fun _ ih hstep => hstep.tidy ih

/-! ## How connections are served -/

/-- How many steps a connection has behind it, of the two that serve it. -/
def Phase.rank : Phase → Nat
  | .opening => 0
  | .checking | .relaying _ _ => 1
  | .served _ | .abandoned => 2

/-- The step of a connection brings it further, unless it is done with. -/
theorem Stepped.rank_lt {i : Nat} {h : Handler} (hstep : Stepped job f w (.progress i) f' w')
    (handler : f.handlers[i]? = some h) :
    ∃ h', f'.handlers[i]? = some h' ∧ (h.phase.rank < h'.phase.rank ∨ h'.phase.rank = 2) := by
  cases hstep with
  | unmoved _ settled =>
      refine ⟨h, handler, Or.inr ?_⟩
      rcases settled h handler with hphase | ⟨r, hphase⟩ <;> rw [hphase] <;> rfl
  | opened handler' opening tunnel sockets =>
      cases handler.symm.trans handler'
      refine ⟨_, handlers_setPhase handler _, Or.inl ?_⟩
      rw [opening]
      exact Nat.zero_lt_one
  | refused handler' opening tunnel refusing sockets =>
      cases handler.symm.trans handler'
      refine ⟨_, handlers_setPhase handler _, Or.inl ?_⟩
      rw [opening]
      exact Nat.zero_lt_one
  | abandoned handler' opening tunnel unexpected same =>
      cases handler.symm.trans handler'
      exact ⟨_, handlers_setPhase handler _, Or.inr rfl⟩
  | checked handler' checking absent same =>
      cases handler.symm.trans handler'
      exact ⟨_, handlers_setPhase handler _, Or.inr rfl⟩
  | relayed handler' relaying sockets =>
      cases handler.symm.trans handler'
      exact ⟨_, handlers_setPhase handler _, Or.inr rfl⟩

/-- Two steps serve a connection, wherever they come. -/
theorem Reaches.rank_le {i : Nat} {h : Handler} (handler : f₀.handlers[i]? = some h)
    (hreaches : Reaches job f₀ w₀ events f w) :
    ∃ h', f.handlers[i]? = some h' ∧ min 2 (events.count (.progress i)) ≤ h'.phase.rank := by
  refine hreaches.invariant (P := fun events f _ => ∃ h', f.handlers[i]? = some h' ∧
    min 2 (events.count (.progress i)) ≤ h'.phase.rank) ⟨h, handler, by simp⟩ ?_
  rintro events f w event f' w' - ⟨h, hhandler, hrank⟩ hstep
  by_cases hevent : event = .progress i
  · subst hevent
    obtain ⟨h', hhandler', hfurther⟩ := hstep.rank_lt hhandler
    refine ⟨h', hhandler', ?_⟩
    rw [List.count_append, List.count_singleton_self]
    omega
  · refine ⟨h, ?_, ?_⟩
    · rcases hstep.other hevent with hsame | ⟨hnone, -⟩
      · rw [hsame, hhandler]
      · rw [hhandler] at hnone
        cases hnone
    · rw [List.count_append, List.count_singleton, if_neg (by simpa using hevent)]
      exact hrank

/-- After these events an event gives up a connection: its tunnel fails in a way that nothing is
done about. -/
def GivesUp (job : Job) (f₀ : Forwarder) (w₀ : World) (i : Nat) (before : List Event)
    (event : Event) : Prop :=
  event = .progress i ∧ ∃ f w h detail, Reaches job f₀ w₀ before f w ∧
    f.handlers[i]? = some h ∧ (openTunnel job h w).1 = .error (.fault (.http detail))

/-- Nothing else leaves a connection unserved. -/
theorem Reaches.givesUp (hhandlers : f₀.handlers = []) (hreaches : Reaches job f₀ w₀ events f w)
    {i : Nat} {h : Handler} (handler : f.handlers[i]? = some h)
    (habandoned : h.phase = .abandoned) :
    SomeEvent (GivesUp job f₀ w₀ i) events := by
  refine hreaches.invariant (P := fun events f _ => ∀ h, f.handlers[i]? = some h →
    h.phase = .abandoned → SomeEvent (GivesUp job f₀ w₀ i) events) ?_ ?_ h handler habandoned
  · intro h handler
    rw [hhandlers] at handler
    cases handler
  · intro events f w event f' w' hreaches ih hstep h handler habandoned
    rw [someEvent_snoc]
    by_cases hevent : event = .progress i
    · subst hevent
      have hphase : ∀ {h' : Handler} {phase : Phase}, f.handlers[i]? = some h' →
          (f.setPhase i h' phase).handlers[i]? = some h → phase = .abandoned := by
        intro h' phase handler' hset
        cases (handlers_setPhase handler' phase).symm.trans hset
        exact habandoned
      cases hstep with
      | unmoved _ settled => exact Or.inl (ih h handler habandoned)
      | opened handler' opening tunnel sockets => cases hphase handler' handler
      | refused handler' opening tunnel refusing sockets => cases hphase handler' handler
      | abandoned handler' opening tunnel unexpected same =>
          obtain ⟨fault, rfl⟩ := openTunnel_error tunnel
          obtain ⟨detail, rfl⟩ := exists_http (unexpected fault rfl)
          exact Or.inr ⟨rfl, f, w, _, detail, hreaches, handler', tunnel⟩
      | checked handler' checking absent same => cases hphase handler' handler
      | relayed handler' relaying sockets => cases hphase handler' handler
    · left
      rcases hstep.other hevent with hsame | ⟨-, h', hnew, hopening⟩
      · exact ih h (hsame ▸ handler) habandoned
      · cases handler.symm.trans hnew
        cases hopening.symm.trans habandoned

/-- The listeners of a run are those it started with. -/
theorem Reaches.listeners_eq (h : Reaches job f₀ w₀ events f w) : f.listeners = f₀.listeners := by
  refine h.invariant (P := fun _ f _ => f.listeners = f₀.listeners) rfl ?_
  intro events f w event f' w' _ ih hstep
  cases hstep <;> exact ih

end PodReach.Forward
