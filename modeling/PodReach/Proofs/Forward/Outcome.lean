import PodReach.Proofs.Forward.Ending
import PodReach.Proofs.Forward.Listening
import PodReach.Proofs.Forward.Serving

/-!
# The outcome of a forwarding run

A run that became ready has bound its ports and served nothing yet, so what is known of the events
that follow decides how it ends and what it leaves behind.
-/

namespace PodReach.Forward

variable {job : Job} {w w₀ : World} {f₀ : Forwarder}

/-- A run that became ready has bound its ports, and done nothing else yet. -/
theorem start_ready (hfree : ∀ n, w.network.freePort n ≠ 0) (hstart : start job w = (.ok f₀, w₀))
    (hready : f₀.ready = true) : ∃ listening left, f₀ = .ofListening listening ∧
      Adds w.network.sockets listening.listeners left w₀.network.sockets := by
  obtain ⟨listening, v, hlisten, hlistens⟩ := listenAll_listens job.addresses job.ports w hfree
  unfold start at hstart
  rw [Run.bind_of_ok hlisten] at hstart
  cases hended : listening.ending with
  | none =>
      rw [hended] at hstart
      cases hstart
      obtain ⟨left, hadds, -⟩ := hlistens.adds
      exact ⟨listening, left, rfl, hadds⟩
  | some ending =>
      obtain ⟨w', hfinish, -⟩ := finish_apply job ending (.ofListening listening) v
      rw [hended] at hstart
      cases hstart.symm.trans hfinish
      simp [Forwarder.ofListening, hended] at hready

theorem tidy_ofListening {listening : Listening} {s s' : Sockets} {left : List Socket}
    (hadds : Adds s listening.listeners left s') : Tidy (.ofListening listening) s' where
  listeners := fun _ hl => hadds.socket_lt hl
  closed := fun hended => absurd rfl hended
  handlers := nofun

/-- Whatever is accepted, however its serving goes and in whichever order everything happens: a run
that became ready fails exactly if the wait, before it was stopped, sees that a pod was not there
after a refused tunnel. Otherwise it lasts until it is stopped. Two steps serve a connection unless
its tunnel fails in an unforeseen way; a served connection has its own socket and that of its tunnel
closed and forgotten, and at the end of the run every listener is closed. -/
theorem forward_law (job : Job) (schedule : Schedule) {w w₀ : World} {f₀ : Forwarder}
    (hfree : ∀ n, w.network.freePort n ≠ 0) (hstart : start job w = (.ok f₀, w₀))
    (hready : f₀.ready = true) :
    let events := schedule w₀.network f₀.listeners
    ∃ f v, forward job schedule w = (.ok f, v) ∧
      (f.ending = some (.failed (.podGone (Text.orNone job.podName))) ↔
        SomeEvent (SeesGone job f₀ w₀) events) ∧
      (f.ending = some .stopped ↔
        .look true ∈ events ∧ ¬ SomeEvent (SeesGone job f₀ w₀) events) ∧
      (f.ending = none ↔ .look true ∉ events ∧ ¬ SomeEvent (SeesGone job f₀ w₀) events) ∧
      (∀ i before later g u, events = before ++ later → Reaches job f₀ w₀ before g u →
        i < g.handlers.length → 2 ≤ later.count (.progress i) → ∃ h, f.handlers[i]? = some h ∧
          (SomeEvent (GivesUp job f₀ w₀ i) events ∨ ∃ remote, h.phase = .served remote)) ∧
      (∀ h ∈ f.handlers, ∀ remote, h.phase = .served remote →
        ¬ v.network.sockets.IsOpen h.socket ∧
          ∀ r, remote = some r → ¬ v.network.sockets.IsOpen r ∧ r ∉ f.tunnels) ∧
      (f.ending ≠ none → ∀ l ∈ f₀.listeners, ¬ v.network.sockets.IsOpen l.socket) := by
  intro events
  obtain ⟨listening, left, rfl, hadds⟩ := start_ready hfree hstart hready
  obtain ⟨f, v, hreaches⟩ := exists_reaches job (.ofListening listening) w₀ events
  have hends := hreaches.endsFor rfl rfl rfl
  have htidy := hreaches.tidy (tidy_ofListening hadds)
  refine ⟨f, v, (Run.bind_of_ok hstart).trans hreaches, hends.eq_gone_iff, hends.eq_stopped_iff,
    hends.eq_none_iff, ?_, ?_, ?_⟩
  · intro i before later g u hsplit hbefore haccepted hcount
    rw [hsplit] at hreaches
    obtain ⟨h, hhandler, hrank⟩ :=
      (hbefore.rest hreaches).rank_le (List.getElem?_eq_getElem haccepted)
    refine ⟨h, hhandler, ?_⟩
    rw [Nat.min_eq_left hcount] at hrank
    cases hphase : h.phase with
    | served remote => exact Or.inr ⟨remote, rfl⟩
    | abandoned => exact Or.inl (hsplit ▸ hreaches.givesUp rfl hhandler hphase)
    | _ =>
        rw [hphase] at hrank
        simp [Phase.rank] at hrank
  · intro h hh remote hserved
    obtain ⟨hlocal, hremote⟩ := (htidy.handlers h hh).served remote hserved
    exact ⟨hlocal, fun r hr => (hremote r hr).2⟩
  · intro hended l hl
    exact htidy.closed hended l (hreaches.listeners_eq ▸ hl)

/-- A connection comes, its tunnel is refused, and the pod is not there when it is read. The first
look comes too early to see it; the second one ends the run, and the stop comes too late. -/
theorem forward_sees_gone :
    let job : Job := ⟨some "web-0", .text "default", [⟨8080, 80⟩], ["127.0.0.1"]⟩
    let w := { World.empty with network := { Network.quiet with
      arrivals := [("127.0.0.1:8080", [.connection ⟨.error (.websocket "refused"), []⟩])] } }
    let events : List Event :=
      [.poll 0, .progress 0, .look false, .progress 0, .look false, .look true]
    (∀ n, w.network.freePort n ≠ 0) ∧
      ∃ f₀ w₀ f v, start job w = (.ok f₀, w₀) ∧ f₀.ready = true ∧
        forward job (fun _ _ => events) w = (.ok f, v) ∧
        f.ending = some (.failed (.podGone "web-0")) ∧ SomeEvent (SeesGone job f₀ w₀) events ∧
        ∀ l ∈ f₀.listeners, ¬ v.network.sockets.IsOpen l.socket := by
  intro job w events
  have hfree : ∀ n, w.network.freePort n ≠ 0 := by
    intro n
    change 40000 + n ≠ 0
    omega
  have hready : (start job w).1.map (·.ready) = .ok true := by decide +kernel
  have hending : (forward job (fun _ _ => events) w).1.map (·.ending) =
      .ok (some (.failed (.podGone "web-0"))) := by decide +kernel
  rcases hstart : start job w with ⟨halt | f₀, w₀⟩ <;> rw [hstart] at hready
  · cases hready
  · have hready := Except.ok.inj hready
    obtain ⟨f, v, hforward, hgone, -, -, -, -, hclosed⟩ :=
      forward_law job (fun _ _ => events) hfree hstart hready
    rw [hforward] at hending
    have hending : f.ending = some (.failed (.podGone "web-0")) := Except.ok.inj hending
    exact ⟨hfree, f₀, w₀, f, v, rfl, hready, hforward, hending, hgone.mp hending,
      hclosed (by rw [hending]; exact nofun)⟩

end PodReach.Forward