import PodReach.Forward.Run
import PodReach.Proofs.World.Sockets

/-!
# The steps of a forwarding run

Everything one step of a run can do, said once: which connection it moves on and why, what it does
to the sockets, and when it ends the run. A step always has a result. What is known about whole
runs is derived from these cases.
-/

namespace PodReach.Forward

open Run

variable {job : Job} {f : Forwarder} {w : World}

/-! ## What the steps are made of -/

theorem sameSockets_relayRound (sendFault : End → Option String)
    (readable : List (End × Received)) :
    Succeeds World.SameSockets (relayRound sendFault readable) := by
  induction readable with
  | nil => exact succeeds_pure _
  | cons first rest ih =>
      obtain ⟨source, received⟩ := first
      unfold relayRound
      cases received with
      | broken detail => exact succeeds_pure _
      | bytes bytes =>
          dsimp only
          split
          · exact succeeds_pure _
          · cases sendFault (End.peer source) with
            | some detail => exact succeeds_pure _
            | none =>
                refine Succeeds.bind ?_ fun _ => ih
                cases source <;> exact sameSockets_record _

/-- A relay always ends, and touches no socket. -/
theorem sameSockets_relayRounds (rounds : List Round) :
    Succeeds World.SameSockets (relayRounds rounds) := by
  induction rounds with
  | nil => exact succeeds_pure _
  | cons round rest ih =>
      unfold relayRounds
      split
      · exact succeeds_pure _
      · refine (sameSockets_relayRound _ _).bind fun ended => ?_
        cases ended with
        | some ended => exact succeeds_pure _
        | none => exact ih

theorem sameSockets_relayUnless (stopped : Bool) (rounds : List Round) :
    Succeeds World.SameSockets (relayUnless stopped rounds) := by
  unfold relayUnless
  split
  · exact succeeds_pure _
  · exact sameSockets_relayRounds rounds

theorem sameSockets_openTunnel (job : Job) (h : Handler) :
    Keeps World.SameSockets (openTunnel job h) := by
  refine (Cluster.sameSockets_request _ _).bind fun _ => ?_
  cases h.connection.tunnel with
  | ok report => exact keeps_pure report
  | error fault => exact keeps_throw _

/-- Opening a tunnel fails only with a fault. -/
theorem openTunnel_error {h : Handler} {halt : Halt}
    (hopen : (openTunnel job h w).1 = .error halt) :
    ∃ fault, halt = .fault fault := by
  unfold openTunnel at hopen
  rw [Run.bind_apply, Cluster.request_apply] at hopen
  cases hbroken : w.cluster.broken .openPortForward w.cluster.requests with
  | some fault =>
      rw [hbroken] at hopen
      cases hopen
      exact ⟨fault, rfl⟩
  | none =>
      rw [hbroken] at hopen
      cases htunnel : h.connection.tunnel with
      | ok report =>
          rw [htunnel] at hopen
          cases hopen
      | error fault =>
          rw [htunnel] at hopen
          cases hopen
          exact ⟨fault, rfl⟩

/-- Reading the pod answers that it does not exist. -/
def PodAbsent (job : Job) (w : World) : Prop :=
  ∃ reason, (Cluster.readPod job.podName job.ns w).1 = .error (.fault (.api 404 reason))

/-- Only the answer that the pod does not exist makes it count as gone. -/
theorem podIsGone_apply (job : Job) (w : World) :
    ∃ gone w', podIsGone job w = (.ok gone, w') ∧ w.SameSockets w' ∧
      (gone = true ↔ PodAbsent job w) := by
  have hsame := Cluster.sameSockets_readPod job.podName job.ns w
  unfold podIsGone PodAbsent
  rw [Run.bind_of_ok (attempt_apply (Cluster.readPod job.podName job.ns) w)]
  cases (Cluster.readPod job.podName job.ns w).1 with
  | ok pod => exact ⟨false, _, rfl, hsame, by simp⟩
  | error halt =>
      cases halt with
      | fault fault =>
          cases fault with
          | api status reason =>
              dsimp only
              split
              next hstatus => exact ⟨true, _, rfl, hsame, by simp [hstatus]⟩
              next hstatus =>
                  refine ⟨false, _, Run.bind_of_ok (Log.write_apply _ _ _), hsame, ?_⟩
                  simpa using hstatus
          | _ => exact ⟨false, _, rfl, hsame, by simp⟩
      | _ => exact ⟨false, _, rfl, hsame, by simp⟩

theorem sameSockets_logRelayEnd (h : Handler) (ended : RelayEnd) :
    Succeeds World.SameSockets (logRelayEnd h ended) := by
  cases ended with
  | stopped => exact succeeds_pure _
  | closed => exact succeeds_pure _
  | broken detail => exact sameSockets_record _

theorem sameSockets_logReport (h : Handler) (report : Option String) :
    Succeeds World.SameSockets (logReport h report) := by
  unfold logReport
  cases Text.nonempty report with
  | some text => exact sameSockets_record _
  | none => exact succeeds_pure _

theorem closeConnection_apply (h : Handler) (w : World) :
    closeConnection h w = (.ok (),
      (w.withSockets (w.network.sockets.without h.socket)).noted [.traffic .connectionClosed]) :=
  (Run.bind_of_ok (Network.closeSocket_apply _ _)).trans (Run.record_apply _ _)

theorem closeRemote_apply (remote : Nat) (w : World) :
    closeRemote remote w = (.ok (),
      (w.withSockets (w.network.sockets.without remote)).noted [.traffic .remoteClosed]) :=
  (Run.bind_of_ok (Network.closeSocket_apply _ _)).trans (Run.record_apply _ _)

/-- However a relay ends, both of its sockets are closed after it. -/
theorem relay_apply (h : Handler) (remote : Nat) (report : Option String) (stopped : Bool)
    (w : World) : ∃ w', relay h remote report stopped w = (.ok (), w') ∧
      w'.network.sockets = (w.network.sockets.without h.socket).without remote := by
  obtain ⟨ended, v, hended, hsame⟩ := sameSockets_relayUnless stopped h.connection.rounds w
  obtain ⟨_, v', hlogged, hsame'⟩ := sameSockets_logRelayEnd h ended v
  have hsockets : v'.network.sockets = w.network.sockets := hsame'.trans hsame
  unfold relay
  rw [Run.bind_of_ok hended, Run.bind_of_ok hlogged, Run.bind_of_ok (closeConnection_apply h v'),
    Run.bind_of_ok (closeRemote_apply remote _), ← hsockets]
  obtain ⟨_, w', hreported, hsame''⟩ := sameSockets_logReport h report _
  exact ⟨w', hreported, hsame''⟩

theorem closeListener_apply (l : Listener) (w : World) :
    closeListener l w = (.ok (), (w.withSockets (w.network.sockets.without l.socket)).noted
      [.traffic (.listenerClosed (some l.endpoint))]) :=
  (Run.bind_of_ok (Network.closeSocket_apply _ _)).trans (Run.record_apply _ _)

/-- Closing listeners closes their sockets. -/
theorem closeListeners_apply (listeners : List Listener) (w : World) :
    ∃ w', closeListeners listeners w = (.ok (), w') ∧
      w'.network.sockets = w.network.sockets.withoutAll (listeners.map Listener.socket) := by
  induction listeners generalizing w with
  | nil => exact ⟨w, rfl, rfl⟩
  | cons l rest ih =>
      obtain ⟨w', hrest, hsockets⟩ := ih ((w.withSockets
        (w.network.sockets.without l.socket)).noted [.traffic (.listenerClosed (some l.endpoint))])
      exact ⟨w', (Run.bind_of_ok (closeListener_apply l w)).trans hrest, hsockets⟩

theorem closeRemotes_apply (remotes : List Nat) (w : World) :
    ∃ w', closeRemotes remotes w = (.ok (), w') ∧
      w'.network.sockets = w.network.sockets.withoutAll remotes := by
  induction remotes generalizing w with
  | nil => exact ⟨w, rfl, rfl⟩
  | cons remote rest ih =>
      obtain ⟨w', hrest, hsockets⟩ := ih ((w.withSockets
        (w.network.sockets.without remote)).noted [.traffic .remoteClosed])
      exact ⟨w', (Run.bind_of_ok (closeRemote_apply remote w)).trans hrest, hsockets⟩

/-- The end of a run closes all listeners and all open tunnels. -/
theorem finish_apply (job : Job) (ending : Ending) (f : Forwarder) (w : World) :
    ∃ w', finish job ending f w = (.ok { f with tunnels := [], ending := some ending }, w') ∧
      w'.network.sockets =
        w.network.sockets.withoutAll (f.listeners.map Listener.socket ++ f.tunnels) := by
  obtain ⟨v, hlisteners, hclosed⟩ := closeListeners_apply f.listeners w
  obtain ⟨v', hremotes, hclosed'⟩ := closeRemotes_apply f.tunnels v
  rw [Sockets.withoutAll_append, ← hclosed]
  unfold finish release
  rw [Run.bind_apply, Run.bind_of_ok hlisteners, Run.bind_of_ok hremotes, Log.write_apply]
  exact ⟨_, rfl, hclosed'⟩

/-- A listener that looks for a connection finds nothing, breaks, or accepts a connection. -/
theorem accept_cases (f : Forwarder) (l : Listener) (w : World) :
    ∃ f' w', accept f l w = (.ok f', w') ∧
      ((f' = f ∨ f' = { f with deaf := f.deaf ++ [l.socket] }) ∧ w.SameSockets w' ∨
        (∃ connection, f' = { f with handlers := f.handlers ++
            [⟨l.port, connection, w.network.sockets.asked, .opening⟩] }) ∧
          w'.network.sockets = w.network.sockets.added) := by
  obtain ⟨arrival, v, harrival, hsame⟩ := Network.sameSockets_nextArrival l.endpoint w
  unfold accept
  rw [Run.bind_of_ok harrival]
  have hsockets : v.network.sockets = w.network.sockets := hsame
  cases arrival with
  | none => exact ⟨f, v, rfl, Or.inl ⟨Or.inl rfl, hsame⟩⟩
  | some arrival =>
      cases arrival with
      | idle => exact ⟨f, v, rfl, Or.inl ⟨Or.inl rfl, hsame⟩⟩
      | broken => exact ⟨_, v, rfl, Or.inl ⟨Or.inr rfl, hsame⟩⟩
      | connection connection =>
          dsimp only
          rw [Run.bind_of_ok (Network.takeSocket_apply v),
            Run.bind_of_ok (Log.write_apply _ _ _), hsockets]
          exact ⟨_, _, rfl, Or.inr ⟨⟨connection, rfl⟩, rfl⟩⟩

/-! ## One step -/

/-- A fault that a tunnel can be refused with so that the pod is read next. -/
def Refusing (fault : Fault) : Prop :=
  ∀ detail, fault ≠ .http detail

theorem exists_http {fault : Fault} (h : ¬ Refusing fault) : ∃ detail, fault = .http detail := by
  cases fault with
  | http detail => exact ⟨detail, rfl⟩
  | _ => exact absurd nofun h

/-- What one step can do. -/
inductive Stepped (job : Job) (f : Forwarder) (w : World) : Event → Forwarder → World → Prop
  /-- A listener finds nothing, or looks no more. -/
  | idle {w' : World} (i : Nat) (same : w.SameSockets w') : Stepped job f w (.poll i) f w'
  /-- A listener breaks. -/
  | deafened {w' : World} (i : Nat) (socket : Nat) (same : w.SameSockets w') :
      Stepped job f w (.poll i) { f with deaf := f.deaf ++ [socket] } w'
  /-- A listener accepts a connection. -/
  | accepted {w' : World} (i : Nat) (l : Listener) (connection : Connection)
      (running : f.ending = none)
      (sockets : w'.network.sockets = w.network.sockets.added) :
      Stepped job f w (.poll i) { f with handlers := f.handlers ++
        [⟨l.port, connection, w.network.sockets.asked, .opening⟩] } w'
  /-- There is no such connection, or it is done with. -/
  | unmoved (i : Nat)
      (settled : ∀ h, f.handlers[i]? = some h → h.phase = .abandoned ∨ ∃ r, h.phase = .served r) :
      Stepped job f w (.progress i) f w
  /-- A tunnel is opened. -/
  | opened {w' : World} {i : Nat} {h : Handler} {report : Option String}
      (handler : f.handlers[i]? = some h) (opening : h.phase = .opening)
      (tunnel : (openTunnel job h w).1 = .ok report)
      (sockets : w'.network.sockets = w.network.sockets.added) :
      Stepped job f w (.progress i)
        { f.setPhase i h (.relaying w.network.sockets.asked report) with
          tunnels := f.tunnels ++ [w.network.sockets.asked] } w'
  /-- A tunnel is refused and its connection closed. -/
  | refused {w' : World} {i : Nat} {h : Handler} {fault : Fault}
      (handler : f.handlers[i]? = some h) (opening : h.phase = .opening)
      (tunnel : (openTunnel job h w).1 = .error (.fault fault)) (refusing : Refusing fault)
      (sockets : w'.network.sockets = w.network.sockets.without h.socket) :
      Stepped job f w (.progress i) (f.setPhase i h .checking) w'
  /-- A tunnel fails in a way that nothing is done about. -/
  | abandoned {w' : World} {i : Nat} {h : Handler} {halt : Halt}
      (handler : f.handlers[i]? = some h) (opening : h.phase = .opening)
      (tunnel : (openTunnel job h w).1 = .error halt)
      (unexpected : ∀ fault, halt = .fault fault → ¬ Refusing fault)
      (same : w.SameSockets w') :
      Stepped job f w (.progress i) (f.setPhase i h .abandoned) w'
  /-- The pod is read. -/
  | checked {w' : World} {i : Nat} {h : Handler} {gone : Bool}
      (handler : f.handlers[i]? = some h) (checking : h.phase = .checking)
      (absent : gone = true ↔ PodAbsent job w) (same : w.SameSockets w') :
      Stepped job f w (.progress i)
        { f.setPhase i h (.served none) with gone := f.gone || gone } w'
  /-- A connection is relayed to its end. -/
  | relayed {w' : World} {i : Nat} {h : Handler} {remote : Nat} {report : Option String}
      (handler : f.handlers[i]? = some h) (relaying : h.phase = .relaying remote report)
      (sockets : w'.network.sockets = (w.network.sockets.without h.socket).without remote) :
      Stepped job f w (.progress i)
        { f.setPhase i h (.served (some remote)) with
          tunnels := f.tunnels.filter (· != remote) } w'
  /-- The run is over. -/
  | finished (stopped : Bool) (ended : f.ending ≠ none) : Stepped job f w (.look stopped) f w
  /-- The wait goes on. -/
  | waits (running : f.ending = none) (there : f.gone = false) :
      Stepped job f w (.look false) f w
  /-- The run ends. -/
  | ends {w' : World} {stopped : Bool} {ending : Ending} (running : f.ending = none)
      (cause : stopped = true ∧ ending = .stopped ∨
        stopped = false ∧ f.gone = true ∧
          ending = .failed (.podGone (Text.orNone job.podName)))
      (sockets : w'.network.sockets =
        w.network.sockets.withoutAll (f.listeners.map Listener.socket ++ f.tunnels)) :
      Stepped job f w (.look stopped) { f with tunnels := [], ending := some ending } w'

theorem poll_cases (job : Job) (f : Forwarder) (i : Nat) (w : World) :
    ∃ f' w', step job f (.poll i) w = (.ok f', w') ∧ Stepped job f w (.poll i) f' w' := by
  unfold step
  dsimp only
  cases f.listeners[i]? with
  | none => exact ⟨f, w, rfl, .idle i rfl⟩
  | some l =>
      dsimp only
      split
      next => exact ⟨f, w, rfl, .idle i rfl⟩
      next hlooks =>
          have hrunning : f.ending = none := by
            simp only [Bool.or_eq_true, not_or, Option.not_isSome_iff_eq_none] at hlooks
            exact hlooks.1
          obtain ⟨f', w', haccept, ⟨rfl | rfl, hsame⟩ | ⟨⟨connection, rfl⟩, hsockets⟩⟩ :=
            accept_cases f l w
          · exact ⟨_, w', haccept, .idle i hsame⟩
          · exact ⟨_, w', haccept, .deafened i l.socket hsame⟩
          · exact ⟨_, w', haccept, .accepted i l connection hrunning hsockets⟩

theorem look_cases (job : Job) (f : Forwarder) (stopped : Bool) (w : World) :
    ∃ f' w', step job f (.look stopped) w = (.ok f', w') ∧
      Stepped job f w (.look stopped) f' w' := by
  unfold step
  dsimp only
  split
  next hended =>
      refine ⟨f, w, rfl, .finished stopped ?_⟩
      intro hnone
      rw [hnone] at hended
      cases hended
  next hrunning =>
      rw [Option.not_isSome_iff_eq_none] at hrunning
      cases stopped with
      | true =>
          obtain ⟨w', hfinish, hsockets⟩ := finish_apply job .stopped f w
          exact ⟨_, w', hfinish, .ends hrunning (Or.inl ⟨rfl, rfl⟩) hsockets⟩
      | false =>
          cases hgone : f.gone with
          | false => exact ⟨f, w, rfl, .waits hrunning hgone⟩
          | true =>
              obtain ⟨w', hfinish, hsockets⟩ :=
                finish_apply job (.failed (.podGone (Text.orNone job.podName))) f w
              exact ⟨_, w', hfinish, .ends hrunning (Or.inr ⟨rfl, hgone, rfl⟩) hsockets⟩

/-- A fault that the pod is read after closes the connection. -/
theorem connect_of_refusing {i : Nat} {h : Handler} {fault : Fault}
    (tunnel : (openTunnel job h w).1 = .error (.fault fault)) (refusing : Refusing fault) :
    ∃ w', connect job f i h w = (.ok (f.setPhase i h .checking), w') ∧
      w'.network.sockets = w.network.sockets.without h.socket := by
  have hsame : (openTunnel job h w).2.network.sockets = w.network.sockets :=
    sameSockets_openTunnel job h w
  unfold connect
  rw [Run.bind_of_ok (attempt_apply (openTunnel job h) w), tunnel, ← hsame]
  cases fault with
  | http detail => exact absurd rfl (refusing detail)
  | _ =>
      dsimp only
      rw [Run.bind_of_ok (Log.write_apply _ _ _), Run.bind_of_ok (closeConnection_apply h _)]
      exact ⟨_, rfl, rfl⟩

/-- After anything else nothing is done about the connection. -/
theorem connect_of_unexpected {i : Nat} {h : Handler} {halt : Halt}
    (tunnel : (openTunnel job h w).1 = .error halt)
    (unexpected : ∀ fault, halt = .fault fault → ¬ Refusing fault) :
    connect job f i h w = (.ok (f.setPhase i h .abandoned), (openTunnel job h w).2) := by
  unfold connect
  rw [Run.bind_of_ok (attempt_apply (openTunnel job h) w), tunnel]
  cases halt with
  | fault fault =>
      cases fault with
      | http detail => rfl
      | _ => exact absurd nofun (unexpected _ rfl)
  | _ => rfl

theorem connect_cases {i : Nat} {h : Handler} (handler : f.handlers[i]? = some h)
    (opening : h.phase = .opening) :
    ∃ f' w', connect job f i h w = (.ok f', w') ∧ Stepped job f w (.progress i) f' w' := by
  have hsame : (openTunnel job h w).2.network.sockets = w.network.sockets :=
    sameSockets_openTunnel job h w
  cases tunnel : (openTunnel job h w).1 with
  | ok report =>
      refine ⟨_, (openTunnel job h w).2.withSockets w.network.sockets.added, ?_,
        .opened handler opening tunnel rfl⟩
      unfold connect
      rw [Run.bind_of_ok (attempt_apply (openTunnel job h) w), tunnel, ← hsame]
      rfl
  | error halt =>
      by_cases hrefused : ∃ fault, halt = .fault fault ∧ Refusing fault
      · obtain ⟨fault, rfl, refusing⟩ := hrefused
        obtain ⟨w', hconnect, hsockets⟩ := connect_of_refusing (f := f) (i := i) tunnel refusing
        exact ⟨_, w', hconnect, .refused handler opening tunnel refusing hsockets⟩
      · have unexpected : ∀ fault, halt = .fault fault → ¬ Refusing fault :=
          fun fault hfault refusing => hrefused ⟨fault, hfault, refusing⟩
        exact ⟨_, _, connect_of_unexpected tunnel unexpected,
          .abandoned handler opening tunnel unexpected hsame⟩

theorem progress_cases (job : Job) (f : Forwarder) (i : Nat) (w : World) :
    ∃ f' w', step job f (.progress i) w = (.ok f', w') ∧
      Stepped job f w (.progress i) f' w' := by
  unfold step
  dsimp only
  cases handler : f.handlers[i]? with
  | none => exact ⟨f, w, rfl, .unmoved i (by rw [handler]; exact nofun)⟩
  | some h =>
      dsimp only
      unfold advance
      have hsettled : (h.phase = .abandoned ∨ ∃ r, h.phase = .served r) →
          Stepped job f w (.progress i) f w := by
        intro hdone
        refine .unmoved i fun h' hh' => ?_
        cases handler.symm.trans hh'
        exact hdone
      cases hphase : h.phase with
      | opening => exact connect_cases handler hphase
      | checking =>
          obtain ⟨gone, w', hgone, hsame, habsent⟩ := podIsGone_apply job w
          exact ⟨_, w', Run.bind_of_ok hgone, .checked handler hphase habsent hsame⟩
      | relaying remote report =>
          obtain ⟨w', hrelay, hsockets⟩ := relay_apply h remote report f.ending.isSome w
          exact ⟨_, w', Run.bind_of_ok hrelay, .relayed handler hphase hsockets⟩
      | served remote => exact ⟨f, w, rfl, hsettled (Or.inr ⟨remote, hphase⟩)⟩
      | abandoned => exact ⟨f, w, rfl, hsettled (Or.inl hphase)⟩

/-- A step always has a result. -/
theorem step_cases (job : Job) (f : Forwarder) (event : Event) (w : World) :
    ∃ f' w', step job f event w = (.ok f', w') ∧ Stepped job f w event f' w' := by
  cases event with
  | poll i => exact poll_cases job f i w
  | progress i => exact progress_cases job f i w
  | look stopped => exact look_cases job f stopped w

/-! ## Connections across a step -/

section Handlers

variable {event : Event} {f' : Forwarder} {w' : World} {i : Nat} {h : Handler}

theorem handlers_setPhase (handler : f.handlers[i]? = some h) (phase : Phase) :
    (f.setPhase i h phase).handlers[i]? = some { h with phase := phase } := by
  obtain ⟨hlt, -⟩ := List.getElem?_eq_some_iff.mp handler
  exact List.getElem?_set_self hlt

theorem handlers_setPhase_ne {j : Nat} (hne : i ≠ j) (phase : Phase) :
    (f.setPhase i h phase).handlers[j]? = f.handlers[j]? :=
  List.getElem?_set_ne hne

/-- A step that is not one of a connection leaves it as it is, unless it is accepted just then. -/
theorem Stepped.other (hstep : Stepped job f w event f' w') (hother : event ≠ .progress i) :
    f'.handlers[i]? = f.handlers[i]? ∨
      f.handlers[i]? = none ∧ ∃ h, f'.handlers[i]? = some h ∧ h.phase = .opening := by
  have hindex : ∀ {j : Nat}, event = .progress j → j ≠ i := by
    rintro j rfl rfl
    exact hother rfl
  cases hstep with
  | idle j same => exact Or.inl rfl
  | deafened j socket same => exact Or.inl rfl
  | accepted j l connection running sockets =>
      rcases Nat.lt_trichotomy i f.handlers.length with hlt | rfl | hlt
      · exact Or.inl (List.getElem?_append_left hlt)
      · exact Or.inr ⟨List.getElem?_eq_none (Nat.le_refl _), _, List.getElem?_concat_length, rfl⟩
      · refine Or.inl ?_
        rw [List.getElem?_eq_none (Nat.le_of_lt hlt), List.getElem?_eq_none]
        rw [List.length_append]
        exact hlt
  | unmoved j settled => exact Or.inl rfl
  | opened handler opening tunnel sockets => exact Or.inl (handlers_setPhase_ne (hindex rfl) _)
  | refused handler opening tunnel refusing sockets =>
      exact Or.inl (handlers_setPhase_ne (hindex rfl) _)
  | abandoned handler opening tunnel unexpected same =>
      exact Or.inl (handlers_setPhase_ne (hindex rfl) _)
  | checked handler checking absent same => exact Or.inl (handlers_setPhase_ne (hindex rfl) _)
  | relayed handler relaying sockets => exact Or.inl (handlers_setPhase_ne (hindex rfl) _)
  | finished stopped ended => exact Or.inl rfl
  | waits running there => exact Or.inl rfl
  | ends running cause sockets => exact Or.inl rfl

end Handlers

end PodReach.Forward
