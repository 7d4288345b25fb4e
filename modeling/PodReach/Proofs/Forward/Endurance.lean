import PodReach.Forward.Run
import PodReach.Proofs.World.Endurance

/-!
# What can come of forwarding in a sound world

Once the ports are read and the log is open, nothing ends a forwarding run early. What cannot be
bound, opened or found is logged, and the run goes on; how it ended is part of its state. It does
not end by a mistake as long as its addresses name hosts.
-/

namespace PodReach.Forward

open Run Network

variable {w₀ : World} {E : Halt → Prop}

/-! ## Listening -/

theorem endures_listenOn {address : String} (h : w₀.network.takesHost address = true)
    (port : Port) :
    Endures w₀ E (fun tried => ∀ mistake, tried ≠ .mistaken mistake) (listenOn address port) := by
  refine (endures_makeSocket _).bind fun made _ => ?_
  split
  · exact (endures_log _ _).bind fun _ _ => endures_pure nofun
  · refine (endures_listen _ _ h).bind fun bound hbound => ?_
    split
    · exact absurd rfl hbound
    · refine (endures_closeSocket _).bind fun _ _ => (endures_record _).bind fun _ _ => ?_
      exact (endures_log _ _).bind fun _ _ => endures_pure nofun
    · exact (endures_record _).bind fun _ _ => (endures_log _ _).bind fun _ _ =>
        endures_pure nofun

theorem endures_listenEverywhere (port : Port) {addresses : List String}
    (h : ∀ address ∈ addresses, w₀.network.takesHost address = true) :
    Endures w₀ E (fun all => all.mistake = none) (listenEverywhere port addresses) := by
  induction addresses generalizing port with
  | nil => exact endures_pure rfl
  | cons address rest ih =>
      have hrest := fun other hmem => h other (List.mem_cons_of_mem _ hmem)
      rw [listenEverywhere]
      refine (endures_listenOn (h address List.mem_cons_self) port).bind fun tried htried => ?_
      cases tried with
      | refused => exact ih port hrest
      | mistaken mistake => exact absurd rfl (htried mistake)
      | listening l => exact (ih l.port hrest).bind fun _ hothers => endures_pure hothers

theorem endures_listenAll {addresses : List String} (ports : List Port)
    (h : ∀ address ∈ addresses, w₀.network.takesHost address = true) :
    Endures w₀ E (fun listening => ∀ mistake, listening.ending ≠ some (.mistaken mistake))
      (listenAll addresses ports) := by
  induction ports with
  | nil => exact endures_pure nofun
  | cons port rest ih =>
      rw [listenAll]
      refine (endures_listenEverywhere port h).bind fun all hall => ?_
      rw [hall]
      dsimp only
      split
      · exact endures_pure nofun
      · exact ih.bind fun _ hothers => endures_pure hothers

theorem endures_closeListeners (listeners : List Listener) :
    Endures w₀ E Whatever (closeListeners listeners) := by
  induction listeners with
  | nil => exact endures_pure trivial
  | cons l rest ih =>
      have hclose : Endures w₀ E Whatever (closeListener l) :=
        (endures_closeSocket _).bind fun _ _ => endures_record _
      exact hclose.bind fun _ _ => ih

/-! ## Relaying -/

theorem endures_relayRound (sendFault : End → Option String) (readable : List (End × Received)) :
    Endures w₀ E Whatever (relayRound sendFault readable) := by
  induction readable with
  | nil => exact endures_pure trivial
  | cons first rest ih =>
      unfold relayRound
      split
      · exact endures_pure trivial
      · split
        · exact endures_pure trivial
        · split
          · exact endures_pure trivial
          · refine Endures.bind (P := Whatever) ?_ fun _ _ => ih
            cases first.1 <;> exact endures_record _

theorem endures_relayRounds (rounds : List Round) :
    Endures w₀ E Whatever (relayRounds rounds) := by
  induction rounds with
  | nil => exact endures_pure trivial
  | cons round rest ih =>
      unfold relayRounds
      split
      · exact endures_pure trivial
      · refine (endures_relayRound _ _).bind fun ended _ => ?_
        split
        · exact endures_pure trivial
        · exact ih

theorem endures_closeConnection (h : Handler) : Endures w₀ E Whatever (closeConnection h) :=
  (endures_closeSocket _).bind fun _ _ => endures_record _

theorem endures_closeRemote (remote : Nat) : Endures w₀ E Whatever (closeRemote remote) :=
  (endures_closeSocket _).bind fun _ _ => endures_record _

theorem endures_relay (h : Handler) (remote : Nat) (report : Option String) (stopped : Bool) :
    Endures w₀ E Whatever (relay h remote report stopped) := by
  have hrounds : Endures w₀ E Whatever (relayUnless stopped h.connection.rounds) := by
    unfold relayUnless
    split
    · exact endures_pure trivial
    · exact endures_relayRounds _
  refine hrounds.bind fun ended _ => Endures.bind (P := Whatever) ?_ fun _ _ => ?_
  · cases ended with
    | broken detail => exact endures_log _ _
    | _ => exact endures_pure trivial
  · refine (endures_closeConnection h).bind fun _ _ => ?_
    refine (endures_closeRemote remote).bind fun _ _ => ?_
    unfold logReport
    split
    · exact endures_log _ _
    · exact endures_pure trivial

/-! ## Steps -/

theorem endures_accept (f : Forwarder) (l : Listener) : Endures w₀ E Whatever (accept f l) := by
  refine (endures_nextArrival _).bind fun arrival _ => ?_
  split
  · exact endures_pure trivial
  · exact endures_pure trivial
  · exact endures_pure trivial
  · exact (endures_takeSocket).bind fun _ _ => (endures_log _ _).bind fun _ _ =>
      endures_pure trivial

/-- A tunnel that cannot be opened ends only its connection. -/
theorem endures_connect (job : Job) (f : Forwarder) (i : Nat) (h : Handler) :
    Endures w₀ E Whatever (connect job f i h) := by
  have htunnel : Endures w₀ (fun _ => True) Whatever (openTunnel job h) := by
    refine (Cluster.endures_request (fun _ _ _ => trivial) _).bind fun _ _ => ?_
    split
    · exact endures_pure trivial
    · exact endures_throw trivial
  refine htunnel.attempt.bind fun opened _ => ?_
  split
  · exact endures_takeSocket.bind fun _ _ => endures_pure trivial
  · exact endures_pure trivial
  · exact (endures_log _ _).bind fun _ _ => (endures_closeConnection h).bind fun _ _ =>
      endures_pure trivial
  · exact endures_pure trivial

theorem endures_podIsGone (job : Job) : Endures w₀ E Whatever (podIsGone job) := by
  refine (Cluster.endures_readPod (E := fun _ => True) (fun _ _ => trivial) _ _).attempt.bind
    fun found _ => ?_
  split
  · exact endures_pure trivial
  · split
    · exact endures_pure trivial
    · exact (endures_log _ _).bind fun _ _ => endures_pure trivial
  · exact endures_pure trivial

theorem endures_advance (job : Job) (f : Forwarder) (i : Nat) (h : Handler) :
    Endures w₀ E Whatever (advance job f i h) := by
  unfold advance
  split
  · exact endures_connect job f i h
  · exact (endures_podIsGone job).bind fun _ _ => endures_pure trivial
  · exact (endures_relay h _ _ _).bind fun _ _ => endures_pure trivial
  · exact endures_pure trivial
  · exact endures_pure trivial

theorem endures_release (job : Job) (f : Forwarder) : Endures w₀ E Whatever (release job f) := by
  have hremotes (remotes : List Nat) : Endures w₀ E Whatever (closeRemotes remotes) := by
    induction remotes with
    | nil => exact endures_pure trivial
    | cons remote rest ih => exact (endures_closeRemote remote).bind fun _ _ => ih
  refine (endures_closeListeners _).bind fun _ _ => (hremotes _).bind fun _ _ => ?_
  exact endures_log _ _

theorem endures_finish (job : Job) (ending : Ending) (f : Forwarder) :
    Endures w₀ E (fun ended => ended.ending = some ending) (finish job ending f) :=
  (endures_release job f).bind fun _ _ => endures_pure rfl

/-- No step ends a run early. -/
theorem endures_step (job : Job) (f : Forwarder) (event : Event) :
    Endures w₀ E Whatever (step job f event) := by
  cases event with
  | poll i =>
      rw [step]
      split
      · exact endures_pure trivial
      · split
        · exact endures_pure trivial
        · exact endures_accept f _
  | progress i =>
      rw [step]
      split
      · exact endures_pure trivial
      · exact endures_advance job f i _
  | look stopped =>
      rw [step]
      split
      · exact endures_pure trivial
      · split
        · exact (endures_finish job _ f).whatever
        · split
          · exact (endures_finish job _ f).whatever
          · exact endures_pure trivial

theorem endures_follow (job : Job) (f : Forwarder) (events : List Event) :
    Endures w₀ E Whatever (follow job f events) := by
  induction events generalizing f with
  | nil => exact endures_pure trivial
  | cons event rest ih => exact (endures_step job f event).bind fun next _ => ih next

theorem endures_start {job : Job}
    (h : ∀ address ∈ job.addresses, w₀.network.takesHost address = true) :
    Endures w₀ E (fun f => ∀ mistake, f.ending ≠ some (.mistaken mistake)) (start job) := by
  refine (endures_listenAll _ h).bind fun listening hlistening => ?_
  dsimp only
  split
  · rename_i ending hending
    refine (endures_finish job ending _).mono (fun _ => id) fun f hf mistake => ?_
    rw [hf, ← hending]
    exact hlistening mistake
  · exact endures_pure nofun

theorem endures_makeJob {pod : Pod} (hpod : pod.Reported) (ports addresses : List String) :
    Endures w₀ (Tolerable w₀) (fun job => job.addresses = resolveAddresses addresses)
      (Job.make pod ports addresses) := by
  refine (endures_need_isSome hpod.metadata).bind fun metadata _ => ?_
  refine endures_get.bind fun w _ => ?_
  dsimp only
  split
  · exact (endures_openFile (by decide +kernel)).bind fun _ _ => endures_pure rfl
  · exact endures_throw (.failed _)

end PodReach.Forward
