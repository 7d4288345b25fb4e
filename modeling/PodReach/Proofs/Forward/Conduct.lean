import PodReach.Proofs.Forward.Events
import PodReach.Proofs.Program.Conduct

/-!
# The conduct of a forwarding run

A forwarding run opens tunnels to its pod and passes over every one that is refused. It then reads
the pod, and whatever it is answered, it goes on with the other connections; but if the answer is
that the pod does not exist, the run knows that its pod is gone, and this is what it ends with
unless someone stops it before.
-/

namespace PodReach

open Run World

section Conduct

variable {scope : Scope} {w₀ w w' : World} {ns : Yaml} {call : Call}

/-! ## Lost pods -/

namespace World

/-- A tunnel was asked for between two worlds. -/
def Tunneled (w₀ w : World) : Prop :=
  ∃ call ∈ callsSince w₀ w, call.service? = some .openPortForward

/-- Between two worlds a pod that was read after a tunnel did not exist. -/
def PodLost (w₀ w : World) : Prop :=
  ∃ before name ns later reason, callsSince w₀ w = before ++ .readPod name ns :: later ∧
    (∃ call ∈ before, call.service? = some .openPortForward) ∧
    (w₀.cluster.afterAll before).refusal? (.readPod name ns) = some (.api 404 reason)

theorem Tunneled.called (h : Tunneled w₀ w) (hgrown : w₀.Grew w)
    (hservice : call.service?.isSome = true) : Tunneled w₀ (w.called call) := by
  obtain ⟨tunnel, hmem, htunnel⟩ := h
  refine ⟨tunnel, ?_, htunnel⟩
  rw [callsSince_called hgrown hservice]
  exact List.mem_append_left _ hmem

theorem Tunneled.quiet (h : Tunneled w₀ w) (hgrown : w₀.Grew w) (hquiet : Quiet w w') :
    Tunneled w₀ w' := by
  rw [Tunneled, callsSince_quiet hgrown hquiet]
  exact h

/-- A call that does not find the pod gone loses no pod. -/
theorem PodLost.of_called (hconduct : Conduct scope w₀ none w)
    (hservice : call.service?.isSome = true) (h : PodLost w₀ (w.called call)) :
    PodLost w₀ w ∨ ∃ name ns reason, call = .readPod name ns ∧
      w.cluster.refusal? call = some (.api 404 reason) := by
  obtain ⟨before, name, ns, later, reason, hsplit, htunnel, hrefused⟩ := h
  rw [callsSince_called hconduct.grew hservice] at hsplit
  rcases List.eq_nil_or_concat later with rfl | ⟨later', last, rfl⟩
  · obtain ⟨rfl, hcall⟩ := List.append_inj' hsplit rfl
    obtain rfl : call = .readPod name ns := by simpa using hcall
    rw [← hconduct.cluster] at hrefused
    exact Or.inr ⟨name, ns, reason, rfl, hrefused⟩
  · have hsplit' : callsSince w₀ w ++ [call] =
        (before ++ .readPod name ns :: later') ++ [last] := by simpa using hsplit
    obtain ⟨hearlier, -⟩ := List.append_inj' hsplit' rfl
    exact Or.inl ⟨before, name, ns, later', reason, hearlier, htunnel, hrefused⟩

/-- Without a tunnel no pod is lost. -/
theorem not_podLost {halt? : Option Halt} (h : Conduct ⟨ns, false⟩ w₀ halt? w) :
    ¬ PodLost w₀ w := by
  rintro ⟨before, name, ns, later, reason, hsplit, ⟨tunnel, hmem, htunnel⟩, -⟩
  have hallowed := h.allowed tunnel (by rw [hsplit]; exact List.mem_append_left _ hmem)
  exact absurd (hallowed.tunnels htunnel) nofun

end World

namespace Forward

variable {job : Job} {f : Forwarder}

/-- Where a run stands while it goes on: it asks about the pod only after a tunnel, and knows when
its pod was lost. -/
structure Looked (w₀ : World) (f : Forwarder) (w : World) : Prop where
  running : f.ending = none
  checking : (∃ h ∈ f.handlers, h.phase = .checking) → Tunneled w₀ w
  lost : PodLost w₀ w → f.gone = true

namespace Looked

theorem quiet (h : Looked w₀ f w) (hgrown : w₀.Grew w) (hquiet : Quiet w w') : Looked w₀ f w' := by
  refine ⟨h.running, fun hchecking => (h.checking hchecking).quiet hgrown hquiet,
    fun hlost => h.lost ?_⟩
  rw [PodLost, callsSince_quiet hgrown hquiet] at hlost
  exact hlost

/-- A connection in another phase is no reason to ask about the pod, or a tunnel came before. -/
theorem setPhase (h : Looked w₀ f w) (i : Nat) (handler : Handler) (phase : Phase)
    (hphase : phase = .checking → Tunneled w₀ w) : Looked w₀ (f.setPhase i handler phase) w := by
  refine ⟨h.running, ?_, h.lost⟩
  rintro ⟨other, hmem, hchecking⟩
  rcases List.mem_or_eq_of_mem_set hmem with hmem | rfl
  · exact h.checking ⟨other, hmem, hchecking⟩
  · exact hphase hchecking

end Looked

/-! ## Steps -/

/-- Asking for a tunnel is a call, and whether it is refused depends on the connection as well. -/
theorem openTunnel_world (job : Job) (h : Handler) (w : World) : (openTunnel job h w).2 =
    w.called (.openPortForward job.podName job.ns [h.port.remotePort]) := by
  have hcall : IsCall (.openPortForward job.podName job.ns [h.port.remotePort]) _ :=
    isCall_openPortForward _ _
  have hworld := hcall.world w
  unfold openTunnel
  rw [bind_apply]
  rcases hrequest : Cluster.request .openPortForward
    (.openPortForward job.podName job.ns [h.port.remotePort]) w with ⟨halt | _, w'⟩ <;>
    rw [hrequest] at hworld
  · exact hworld
  · cases h.connection.tunnel <;> exact hworld

/-- Every tunnel that is refused is passed over. -/
theorem conduct_openTunnel (hjob : job.ns = scope.ns) (htunnels : scope.tunnels = true)
    (h : Handler) (hconduct : Conduct scope w₀ none w) :
    Conduct scope w₀ none (openTunnel job h w).2 ∧ Tunneled w₀ (openTunnel job h w).2 := by
  rw [openTunnel_world]
  constructor
  · refine hconduct.called rfl ⟨fun named hnamed => ?_, fun _ => htunnels⟩ fun _ _ => Or.inl trivial
    exact (Option.some.inj hnamed).symm.trans hjob
  · refine ⟨.openPortForward job.podName job.ns [h.port.remotePort], ?_, rfl⟩
    rw [callsSince_called hconduct.grew rfl]
    exact List.mem_append_right _ List.mem_cons_self

theorem leads_connect (hjob : job.ns = scope.ns) (htunnels : scope.tunnels = true)
    (hconduct : Conduct scope w₀ none w) (hlooked : Looked w₀ f w) (i : Nat) (h : Handler) :
    Leads scope w₀ (Looked w₀) (connect job f i h w) := by
  obtain ⟨h₁, htunneled⟩ := conduct_openTunnel hjob htunnels h hconduct
  have hlooked₁ : Looked w₀ f (openTunnel job h w).2 := by
    refine ⟨hlooked.running, fun _ => htunneled, fun hlost => hlooked.lost ?_⟩
    rw [openTunnel_world] at hlost
    refine (PodLost.of_called hconduct rfl hlost).resolve_right ?_
    rintro ⟨_, _, _, hcall, -⟩
    cases hcall
  unfold connect
  rw [bind_of_ok (attempt_apply (openTunnel job h) w)]
  cases (openTunnel job h w).1 with
  | ok report =>
      refine (leads_quiet quiet_takeSocket h₁).bind fun remote w₂ h₂ htook => ?_
      have hlooked₂ := (hlooked₁.quiet h₁.grew (quiet_takeSocket.of_run htook)).setPhase i h
        (.relaying remote report) nofun
      exact leads_pure h₂ ⟨hlooked₂.running, hlooked₂.checking, hlooked₂.lost⟩
  | error halt =>
      have habandoned : Leads scope w₀ (Looked w₀)
          ((pure (f.setPhase i h .abandoned) : Run Forwarder) (openTunnel job h w).2) :=
        leads_pure h₁ (hlooked₁.setPhase i h .abandoned nofun)
      have hrefused (text : String) : Leads scope w₀ (Looked w₀) ((do
          Log.write .error text
          closeConnection h
          return f.setPhase i h .checking : Run Forwarder) (openTunnel job h w).2) := by
        refine (leads_quiet (quiet_log _ _) h₁).bind fun _ w₂ h₂ hlogged => ?_
        refine (leads_quiet (quiet_closeConnection h) h₂).bind fun _ w₃ h₃ hclosed => ?_
        have hq := (quiet_log _ _).of_run hlogged
        have hq' := (quiet_closeConnection h).of_run hclosed
        refine leads_pure h₃ ((hlooked₁.quiet h₁.grew (hq.trans hq')).setPhase i h .checking ?_)
        exact fun _ => htunneled.quiet h₁.grew (hq.trans hq')
      cases halt with
      | fault fault =>
          cases fault with
          | http detail => exact habandoned
          | _ => exact hrefused _
      | _ => exact habandoned

/-- Reading the pod is all that is asked to learn whether it is gone. -/
theorem quiet_podIsGone (job : Job) (w : World) :
    Quiet (w.called (.readPod job.podName job.ns)) (podIsGone job w).2 := by
  have hcall : IsCall (.readPod job.podName job.ns) (Cluster.readPod job.podName job.ns) :=
    isCall_readPod _
  unfold podIsGone
  rw [bind_of_ok (attempt_apply _ w), hcall.world w]
  cases (Cluster.readPod job.podName job.ns w).1 with
  | ok pod => exact .refl _
  | error halt =>
      cases halt with
      | fault fault =>
          cases fault with
          | api status reason =>
              dsimp only
              split
              · exact .refl _
              · exact (quiet_log _ _).bind (fun _ => keeps_pure false) _
          | _ => exact .refl _
      | _ => exact .refl _

/-- Reading the pod after a tunnel is passed over, and it is known when the pod is gone. -/
theorem leads_podIsGone (hjob : job.ns = scope.ns) (hconduct : Conduct scope w₀ none w)
    (htunneled : Tunneled w₀ w) :
    Leads scope w₀ (fun gone w' => Tunneled w₀ w' ∧ (PodLost w₀ w' → PodLost w₀ w ∨ gone = true))
      (podIsGone job w) := by
  have hcall : IsCall (.readPod job.podName job.ns) (Cluster.readPod job.podName job.ns) :=
    isCall_readPod _
  have h₁ : Conduct scope w₀ none (w.called (.readPod job.podName job.ns)) :=
    hconduct.called rfl (Scope.allows_of_ns rfl hjob nofun) fun _ _ => Or.inl htunneled
  have hquiet := quiet_podIsGone job w
  obtain ⟨gone, w', hrun, -, hgone⟩ := podIsGone_apply job w
  rw [hrun] at hquiet ⊢
  refine ⟨h₁.quiet hquiet, (htunneled.called hconduct.grew rfl).quiet h₁.grew hquiet, ?_⟩
  intro hlost
  rw [PodLost, callsSince_quiet h₁.grew hquiet] at hlost
  refine (PodLost.of_called hconduct rfl hlost).imp id ?_
  rintro ⟨_, _, reason, -, hfault⟩
  exact hgone.mpr ⟨reason, (hcall.refused w _).mpr hfault⟩

theorem leads_advance (hjob : job.ns = scope.ns) (htunnels : scope.tunnels = true)
    (hconduct : Conduct scope w₀ none w) (hlooked : Looked w₀ f w) {i : Nat} {h : Handler}
    (handler : f.handlers[i]? = some h) :
    Leads scope w₀ (Looked w₀) (advance job f i h w) := by
  unfold advance
  cases hphase : h.phase with
  | opening => exact leads_connect hjob htunnels hconduct hlooked i h
  | checking =>
      have htunneled : Tunneled w₀ w :=
        hlooked.checking ⟨h, List.mem_of_getElem? handler, hphase⟩
      refine (leads_podIsGone hjob hconduct htunneled).bind fun gone w₁ h₁ hgone => ?_
      refine leads_pure h₁ ⟨hlooked.running, fun _ => hgone.1, fun hlost => ?_⟩
      rcases hgone.2 hlost with hlost | rfl
      · simp [hlooked.lost hlost]
      · simp
  | relaying remote report =>
      refine (leads_quiet (quiet_relay _ _ _ _) hconduct).bind fun _ w₁ h₁ hrelayed => ?_
      have hquiet := (quiet_relay h remote report f.ending.isSome).of_run hrelayed
      have hlooked₁ := (hlooked.quiet hconduct.grew hquiet).setPhase i h (.served (some remote))
        nofun
      exact leads_pure h₁ ⟨hlooked₁.running, hlooked₁.checking, hlooked₁.lost⟩
  | served remote => exact leads_pure hconduct hlooked
  | abandoned => exact leads_pure hconduct hlooked

theorem leads_accept (hconduct : Conduct scope w₀ none w) (hlooked : Looked w₀ f w)
    (l : Listener) : Leads scope w₀ (Looked w₀) (accept f l w) := by
  refine (leads_quiet (quiet_nextArrival _) hconduct).bind fun arrival w₁ h₁ harrived => ?_
  have hlooked₁ := hlooked.quiet hconduct.grew ((quiet_nextArrival _).of_run harrived)
  rcases arrival with _ | _ | _ | connection
  · exact leads_pure h₁ hlooked₁
  · exact leads_pure h₁ hlooked₁
  · exact leads_pure h₁ ⟨hlooked₁.running, hlooked₁.checking, hlooked₁.lost⟩
  · refine (leads_quiet quiet_takeSocket h₁).bind fun socket w₂ h₂ htook => ?_
    refine (leads_quiet (quiet_log _ _) h₂).bind fun _ w₃ h₃ hlogged => ?_
    have hquiet := (quiet_takeSocket.of_run htook).trans ((quiet_log _ _).of_run hlogged)
    have hlooked₃ := hlooked₁.quiet h₁.grew hquiet
    refine leads_pure h₃ ⟨hlooked₃.running, ?_, hlooked₃.lost⟩
    rintro ⟨h, hmem, hchecking⟩
    rcases List.mem_append.mp hmem with hmem | hmem
    · exact hlooked₃.checking ⟨h, hmem, hchecking⟩
    · rw [List.mem_singleton.mp hmem] at hchecking
      cases hchecking

/-- A step of a listener or of a connection. -/
theorem leads_step (hjob : job.ns = scope.ns) (htunnels : scope.tunnels = true)
    (hconduct : Conduct scope w₀ none w) (hlooked : Looked w₀ f w) {event : Event}
    (hevent : ∀ stopped, event ≠ .look stopped) :
    Leads scope w₀ (Looked w₀) (step job f event w) := by
  unfold step
  cases event with
  | poll i =>
      dsimp only
      cases f.listeners[i]? with
      | none => exact leads_pure hconduct hlooked
      | some l => exact leads_ite (leads_pure hconduct hlooked) (leads_accept hconduct hlooked l)
  | progress i =>
      dsimp only
      cases handler : f.handlers[i]? with
      | none => exact leads_pure hconduct hlooked
      | some h => exact leads_advance hjob htunnels hconduct hlooked handler
  | look stopped => exact absurd rfl (hevent stopped)

/-- Following events until the wait. -/
theorem leads_follow (hjob : job.ns = scope.ns) (htunnels : scope.tunnels = true)
    (events : List Event) (hevents : ∀ event ∈ events, ∀ stopped, event ≠ .look stopped)
    (hconduct : Conduct scope w₀ none w) (hlooked : Looked w₀ f w) :
    Leads scope w₀ (Looked w₀) (follow job f events w) := by
  induction events generalizing f w with
  | nil => exact leads_pure hconduct hlooked
  | cons event rest ih =>
      obtain ⟨hfirst, hrest⟩ := List.forall_mem_cons.mp hevents
      refine (leads_step hjob htunnels hconduct hlooked hfirst).bind fun next w₁ h₁ hlooked₁ => ?_
      exact ih hrest h₁ hlooked₁

/-- Serving one listener after the other never looks at the wait. -/
theorem ofArrivals_ne_look (listener handlers : Nat) (arrivals : List Arrival) :
    ∀ event ∈ (Schedule.ofArrivals listener handlers arrivals).1,
      ∀ stopped, event ≠ .look stopped := by
  induction arrivals generalizing handlers with
  | nil => exact nofun
  | cons arrival rest ih =>
      intro event hmem stopped
      cases arrival with
      | idle =>
          rcases List.mem_cons.mp hmem with rfl | hmem
          · exact nofun
          · exact ih _ event hmem stopped
      | broken =>
          rw [List.mem_singleton.mp hmem]
          exact nofun
      | connection connection =>
          rcases List.mem_cons.mp hmem with rfl | hmem
          · exact nofun
          · rcases List.mem_cons.mp hmem with rfl | hmem
            · exact nofun
            · rcases List.mem_cons.mp hmem with rfl | hmem
              · exact nofun
              · exact ih _ event hmem stopped

theorem serial_ne_look (network : Network) (listeners : List Listener) :
    ∀ event ∈ Schedule.serial network listeners, ∀ stopped, event ≠ .look stopped := by
  have hall (i handlers : Nat) : ∀ event ∈ Schedule.ofListeners network i handlers listeners,
      ∀ stopped, event ≠ .look stopped := by
    induction listeners generalizing i handlers with
    | nil => exact nofun
    | cons l rest ih =>
        intro event hmem stopped
        rcases List.mem_append.mp hmem with hmem | hmem
        · exact ofArrivals_ne_look _ _ _ event hmem stopped
        · exact ih _ _ event hmem stopped
  exact hall 0 0

theorem quiet_stop (job : Job) (f : Forwarder) : Keeps Quiet (step job f (.look true)) := by
  unfold step
  dsimp only
  split
  · exact keeps_pure _
  · exact quiet_finish _ _ _

end Forward

/-! ## The command -/

namespace Command

open Forward

variable {α β : Type} {job : Job} {f : Forwarder}

/-- A pod that was lost is what a run ends with, unless someone interrupted it or something could
not be rendered. -/
def TellsLoss (w₀ : World) (run : Except Halt α × World) : Prop :=
  PodLost w₀ run.2 → (∃ name, run.1 = .error (.failed (.podGone name))) ∨
    run.2.interruptOn ≠ w₀.interruptOn ∨
    ∃ text, run.1 = .error (.unrendered text) ∧ w₀.markup.renders text = false

theorem shows_reportForwarding (podName : String) (addresses : List String) (ports : List Port) :
    Shows (reportForwarding podName addresses ports) := by
  refine (shows_line _).bind fun _ => ?_
  exact (shows_forM fun port => shows_line _).bind fun _ => shows_line _

theorem leads_makeJob {pod : Pod} (hpod : pod.Belongs scope w₀) (ports addresses : List String)
    (h : Conduct scope w₀ none w) :
    Leads scope w₀ (fun job _ => job.ns = scope.ns) (Job.make pod ports addresses w) := by
  refine (leads_quiet (keeps_need _) h).bind fun metadata w₁ h₁ hmetadata => ?_
  rw [bind_of_ok (get_apply w₁), h₁.ns_eq, hpod metadata (need_eq_ok hmetadata).1]
  cases readPorts ports with
  | ok read =>
      exact (leads_quiet (quiet_openFile logName) h₁).bind fun _ w₂ h₂ _ => leads_pure h₂ rfl
  | error failure => exact leads_throw _ h₁

/-- The wait ends with a lost pod, with an interrupt, or with a text that cannot be rendered. -/
theorem leads_waitForEnd (hconduct : Conduct scope w₀ none w) (hlooked : Looked w₀ f w)
    (addresses : List String) :
    Leads scope w₀ Anything (waitForEnd job f addresses w) ∧
      TellsLoss w₀ (waitForEnd job f addresses w) := by
  have hshows := shows_reportForwarding (Text.orNone job.podName) addresses f.ports w
  have hquiet := quiet_reportForwarding (Text.orNone job.podName) addresses f.ports w
  unfold waitForEnd
  rw [bind_of_ok (attempt_apply _ w)]
  rcases hreport : reportForwarding (Text.orNone job.podName) addresses f.ports w with
    ⟨halt | _, w₁⟩ <;> rw [hreport] at hshows hquiet
  · obtain ⟨-, hdisturbed⟩ := hshows
    cases hdisturbed with
    | interrupted awaited made =>
        have hstop : Keeps Quiet (do
            Console.info "正在停止端口转发..."
            let _ ← step job f (.look true)
            Console.line "[dim]端口转发已停止[/dim]") :=
          (quiet_info _).bind fun _ => (quiet_stop job f).bind fun _ =>
            quiet_line "[dim]" (by simp) (by decide)
        refine ⟨(leads_quiet hstop (hconduct.quiet hquiet)).anything, fun _ => Or.inr (Or.inl ?_)⟩
        have hstill := (hstop w₁).alarm
        rw [SameAlarm, made, or_self] at hstill
        rw [show _ = none from hstill, ← hconduct.alarm.resolve_right awaited]
        exact awaited.symm
    | @unrendered text unrendered unmade =>
        obtain ⟨w₂, hfinish, -⟩ := finish_apply job .stopped f w₁
        have hstop : step job f (.look true) w₁ =
            (.ok { f with tunnels := [], ending := some .stopped }, w₂) := by
          simpa [step, hlooked.running] using hfinish
        dsimp only
        rw [bind_of_ok hstop]
        have hstopped := (hconduct.quiet hquiet).quiet ((quiet_stop job f).of_run hstop)
        exact ⟨leads_throw _ hstopped, fun _ =>
          Or.inr (Or.inr ⟨text, rfl, hconduct.markup ▸ unrendered⟩)⟩
  · have h₁ := hconduct.quiet hquiet
    have hlooked₁ := hlooked.quiet hconduct.grew hquiet
    have hstep : step job f (.look false) = if f.gone then
        finish job (.failed (.podGone (Text.orNone job.podName))) f else pure f := by
      simp [step, hlooked.running]
    dsimp only
    rw [hstep]
    cases hgone : f.gone with
    | true =>
        obtain ⟨w₂, hfinish, -⟩ := finish_apply job
          (.failed (.podGone (Text.orNone job.podName))) f w₁
        rw [if_pos rfl, bind_of_ok hfinish]
        exact ⟨(h₁.quiet ((quiet_finish _ _ _).of_run hfinish)).ends _, fun _ => Or.inl ⟨_, rfl⟩⟩
    | false =>
        rw [if_neg Bool.false_ne_true, bind_of_ok (show (pure f : Run Forwarder) w₁ = _ from rfl),
          hlooked.running]
        refine ⟨leads_throw _ h₁, fun hlost => ?_⟩
        have hknown := hlooked₁.lost hlost
        rw [hgone] at hknown
        cases hknown

/-- Listening is never stopped. -/
theorem listenAll_not_stopped {addresses : List String} {ports : List Port}
    {listening : Listening} (h : listenAll addresses ports w = (.ok listening, w')) :
    listening.ending ≠ some .stopped := by
  induction ports generalizing listening w with
  | nil =>
      cases h
      exact nofun
  | cons port rest ih =>
      obtain ⟨all, v, -, h⟩ := bind_eq_ok h
      cases hmistake : all.mistake with
      | some mistake =>
          rw [hmistake] at h
          cases h
          exact nofun
      | none =>
          rw [hmistake] at h
          dsimp only at h
          split at h
          · cases h
            exact nofun
          · obtain ⟨others, v', hothers, h⟩ := bind_eq_ok h
            cases h
            have hrest : others.ending ≠ some .stopped := ih hothers
            exact hrest

/-- A run starts without connections, and it has not been stopped. -/
theorem start_eq_ok (h : start job w = (.ok f, w')) :
    f.handlers = [] ∧ f.ending ≠ some .stopped := by
  unfold start at h
  obtain ⟨listening, v, hlisten, h⟩ := bind_eq_ok h
  have hnot := listenAll_not_stopped hlisten
  cases hended : listening.ending with
  | none =>
      rw [hended] at h
      cases h
      exact ⟨rfl, nofun⟩
  | some ending =>
      obtain ⟨v', hfinish, -⟩ := finish_apply job ending (.ofListening listening) v
      rw [hended] at h hnot
      cases hfinish.symm.trans h
      exact ⟨rfl, hnot⟩

/-- What comes before the first tunnel loses no pod. -/
theorem forwarded_bind {Q : α → World → Prop} {action : Run α} {next : α → Run β}
    (h : Leads ⟨ns, false⟩ w₀ Q (action w))
    (hnext : ∀ a w', Conduct ⟨ns, false⟩ w₀ none w' → Q a w' →
      Leads ⟨ns, true⟩ w₀ Anything (next a w') ∧ TellsLoss w₀ (next a w')) :
    Leads ⟨ns, true⟩ w₀ Anything ((action >>= next) w) ∧ TellsLoss w₀ ((action >>= next) w) := by
  rw [bind_apply]
  rcases hrun : action w with ⟨halt | a, w'⟩ <;> rw [hrun] at h
  · exact ⟨h.widen true, fun hlost => absurd hlost (not_podLost h)⟩
  · exact hnext a w' h.1 h.2

/-- A run that ends before the first tunnel has lost no pod. -/
theorem forwarded_of_leads {run : Except Halt α × World}
    (h : Leads ⟨ns, false⟩ w₀ Anything run) :
    Leads ⟨ns, true⟩ w₀ Anything run ∧ TellsLoss w₀ run := by
  rcases run with ⟨halt | a, w'⟩
  · exact ⟨h.widen true, fun hlost => absurd hlost (not_podLost h)⟩
  · exact ⟨⟨h.1.widen true, trivial⟩, fun hlost => absurd hlost (not_podLost h.1)⟩

/-- A result in another form is told in the same way. -/
theorem forwarded_map {Q : α → World → Prop} {action : Run α} {form : α → β}
    (h : Leads scope w₀ Q (action w) ∧ TellsLoss w₀ (action w)) :
    Leads scope w₀ Anything ((action >>= fun a => pure (form a)) w) ∧
      TellsLoss w₀ ((action >>= fun a => pure (form a)) w) := by
  rw [bind_pure_apply]
  rcases hrun : action w with ⟨halt | a, w'⟩ <;> rw [hrun] at h
  · refine ⟨h.1, fun hlost => ?_⟩
    rcases h.2 hlost with ⟨name, hgone⟩ | halarm | ⟨text, htext, hunrendered⟩
    · exact Or.inl ⟨name, by rw [Except.error.inj hgone]; rfl⟩
    · exact Or.inr (Or.inl halarm)
    · exact Or.inr (Or.inr ⟨text, by rw [Except.error.inj htext]; rfl, hunrendered⟩)
  · refine ⟨⟨h.1.1, trivial⟩, fun hlost => ?_⟩
    rcases h.2 hlost with ⟨name, hgone⟩ | halarm | ⟨text, htext, -⟩
    · cases hgone
    · exact Or.inr (Or.inl halarm)
    · cases htext

theorem leads_forwardPorts {selector : Selector} (hhome : w₀.cluster.ns = ns)
    (hns : selector.ns.orElse w₀.cluster.ns = ns) (ports : List String) (addresses : List Yaml)
    (h : Conduct ⟨ns, false⟩ w₀ none w) :
    Leads ⟨ns, true⟩ w₀ Anything (forwardPorts selector ports addresses w) ∧
      TellsLoss w₀ (forwardPorts selector ports addresses w) := by
  refine forwarded_bind (leads_reachableTarget hhome hns true h) fun target w₁ h₁ htarget => ?_
  cases target with
  | none => exact forwarded_of_leads (leads_pure h₁ trivial)
  | some found =>
      have hpod := htarget found rfl
      refine forwarded_bind (leads_quiet (keeps_forM fun a _ => quiet_warnIfReachable a) h₁)
        fun _ w₂ h₂ _ => ?_
      refine forwarded_bind (leads_makeJob hpod _ _ h₂) fun job w₃ h₃ hjob => ?_
      cases addressTexts? addresses with
      | none =>
          refine forwarded_of_leads ?_
          exact (leads_quiet (quiet_release _ _) h₃).bind fun _ w₄ h₄ _ => leads_throw _ h₄
      | some texts =>
          refine forwarded_bind (leads_quiet (quiet_start _) h₃) fun f w₄ h₄ hstart => ?_
          obtain ⟨hhandlers, hnot⟩ := start_eq_ok hstart
          cases hended : f.ending with
          | some ending =>
              have hthrown (halt : Halt) := forwarded_of_leads
                (leads_throw (α := Unit) halt h₄)
              cases ending with
              | failed failure => exact hthrown _
              | mistaken mistake => exact hthrown _
              | stopped => exact absurd hended hnot
          | none =>
              obtain ⟨served, w₅, hserved⟩ :=
                exists_reaches job f w₄ (Schedule.serial w₄.network f.listeners)
              have hlooked : Looked w₀ f w₄ := by
                refine ⟨hended, ?_, fun hlost => absurd hlost (not_podLost h₄)⟩
                rintro ⟨h, hmem, -⟩
                rw [hhandlers] at hmem
                cases hmem
              have hsame : job.ns = (Scope.mk ns true).ns := hjob
              have hleads : Leads ⟨ns, true⟩ w₀ (Looked w₀)
                  (follow job f (Schedule.serial w₄.network f.listeners) w₄) :=
                leads_follow hsame rfl _ (serial_ne_look _ _) (h₄.widen true) hlooked
              rw [show follow job f _ w₄ = _ from hserved] at hleads
              dsimp only
              rw [bind_of_ok (get_apply w₄), bind_of_ok (show follow job f _ w₄ = _ from hserved)]
              exact leads_waitForEnd hleads.1 hleads.2 texts

end Command

end Conduct

end PodReach
