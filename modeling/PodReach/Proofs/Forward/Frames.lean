import PodReach.Forward.Run
import PodReach.Proofs.World.Frames

/-!
# What a forwarding run leaves as it was

A forwarding run is made of a few kinds of actions: it takes and closes sockets, writes down what
happens at their ends, logs, listens on its addresses and asks the cluster for tunnels and for its
pod. What all of these keep is kept by every step of the run and so by the whole of it, in whatever
order things happen.
-/

namespace PodReach.Forward

open Run

/-- The actions that forwarding is made of keep a relation, apart from those that ask the cluster
and from writing down that a listener listens. -/
structure Handled (R : World → World → Prop) : Prop where
  log : ∀ level text, Keeps R (Log.write level text)
  traffic : ∀ t : Traffic, (∀ place, t ≠ .listening place) → Keeps R (record (.traffic t))
  makeSocket : ∀ address, Keeps R (Network.makeSocket address)
  takeSocket : Keeps R Network.takeSocket
  closeSocket : ∀ number, Keeps R (Network.closeSocket number)
  listen : ∀ socket address requested, Keeps R (Network.listen socket address requested)
  nextArrival : ∀ place, Keeps R (Network.nextArrival place)

/-- So do those that ask the cluster. -/
structure Served (R : World → World → Prop) : Prop extends Handled R where
  tunnel : ∀ pod ns ports,
    Keeps R (Cluster.request .openPortForward (.openPortForward pod ns ports))
  read : ∀ pod ns, Keeps R (Cluster.readPod pod ns)

variable {R : World → World → Prop} [Std.Refl R] [IsTrans World R]

/-! ## Listeners -/

section Listeners

variable {addresses : List String}

theorem keeps_listenOn (h : Handled R) {address : String}
    (hlistening : ∀ n, Keeps R (record (.traffic (.listening (endpoint address n)))))
    (port : Port) : Keeps R (listenOn address port) := by
  refine (h.makeSocket _).bind fun made => ?_
  split
  · exact (h.log _ _).bind fun _ => keeps_pure _
  · refine (h.listen _ _ _).bind fun bound => ?_
    split
    · exact keeps_pure _
    · refine (h.closeSocket _).bind fun _ => ?_
      refine (h.traffic _ (by simp)).bind fun _ => ?_
      exact (h.log _ _).bind fun _ => keeps_pure _
    · exact (hlistening _).bind fun _ => (h.log _ _).bind fun _ => keeps_pure _

theorem keeps_listenEverywhere (h : Handled R)
    (hlistening : ∀ address ∈ addresses, ∀ n,
      Keeps R (record (.traffic (.listening (endpoint address n))))) (port : Port) :
    Keeps R (listenEverywhere port addresses) := by
  induction addresses generalizing port with
  | nil => exact keeps_pure _
  | cons address rest ih =>
      obtain ⟨hfirst, hrest⟩ := List.forall_mem_cons.mp hlistening
      refine (keeps_listenOn h hfirst _).bind fun attempt => ?_
      split
      · exact ih hrest _
      · exact keeps_pure _
      · exact (ih hrest _).bind fun _ => keeps_pure _

theorem keeps_listenAll (h : Handled R)
    (hlistening : ∀ address ∈ addresses, ∀ n,
      Keeps R (record (.traffic (.listening (endpoint address n))))) (ports : List Port) :
    Keeps R (listenAll addresses ports) := by
  induction ports with
  | nil => exact keeps_pure _
  | cons port rest ih =>
      refine (keeps_listenEverywhere h hlistening _).bind fun all => ?_
      split
      · exact keeps_pure _
      · split
        · exact keeps_pure _
        · exact ih.bind fun _ => keeps_pure _

theorem keeps_closeListeners (h : Handled R) (listeners : List Listener) :
    Keeps R (closeListeners listeners) := by
  induction listeners with
  | nil => exact keeps_pure _
  | cons l rest ih =>
      refine Keeps.bind ?_ fun _ => ih
      exact (h.closeSocket _).bind fun _ => h.traffic _ (by simp)

end Listeners

/-! ## Connections -/

theorem keeps_accept (h : Handled R) (f : Forwarder) (l : Listener) : Keeps R (accept f l) := by
  refine (h.nextArrival _).bind fun arrival => ?_
  split
  · exact keeps_pure _
  · exact keeps_pure _
  · exact keeps_pure _
  · exact h.takeSocket.bind fun _ => (h.log _ _).bind fun _ => keeps_pure _

omit [Std.Refl R] in
theorem keeps_closeConnection (h : Handled R) (handler : Handler) :
    Keeps R (closeConnection handler) :=
  (h.closeSocket _).bind fun _ => h.traffic _ (by simp)

omit [Std.Refl R] in
theorem keeps_closeRemote (h : Handled R) (remote : Nat) : Keeps R (closeRemote remote) :=
  (h.closeSocket _).bind fun _ => h.traffic _ (by simp)

theorem keeps_closeRemotes (h : Handled R) (remotes : List Nat) :
    Keeps R (closeRemotes remotes) := by
  induction remotes with
  | nil => exact keeps_pure _
  | cons remote rest ih => exact (keeps_closeRemote h _).bind fun _ => ih

omit [Std.Refl R] [IsTrans World R] in
theorem keeps_sendTo (h : Handled R) (target : End) (bytes : List UInt8) :
    Keeps R (sendTo target bytes) := by
  cases target <;> exact h.traffic _ (by simp)

theorem keeps_relayRound (h : Handled R) (sendFault : End → Option String)
    (readable : List (End × Received)) : Keeps R (relayRound sendFault readable) := by
  induction readable with
  | nil => exact keeps_pure _
  | cons first rest ih =>
      unfold relayRound
      split
      · exact keeps_pure _
      · split
        · exact keeps_pure _
        · split
          · exact keeps_pure _
          · exact (keeps_sendTo h _ _).bind fun _ => ih

theorem keeps_relayRounds (h : Handled R) (rounds : List Round) :
    Keeps R (relayRounds rounds) := by
  induction rounds with
  | nil => exact keeps_pure _
  | cons round rest ih =>
      unfold relayRounds
      split
      · exact keeps_pure _
      · refine (keeps_relayRound h _ _).bind fun ended => ?_
        split
        · exact keeps_pure _
        · exact ih

theorem keeps_relay (h : Handled R) (handler : Handler) (remote : Nat) (report : Option String)
    (stopped : Bool) : Keeps R (relay handler remote report stopped) := by
  have hrounds : Keeps R (relayUnless stopped handler.connection.rounds) := by
    unfold relayUnless
    split
    · exact keeps_pure _
    · exact keeps_relayRounds h _
  refine hrounds.bind fun ended => Keeps.bind ?_ fun _ => ?_
  · cases ended with
    | stopped => exact keeps_pure _
    | closed => exact keeps_pure _
    | broken detail => exact h.log _ _
  · refine (keeps_closeConnection h _).bind fun _ => (keeps_closeRemote h _).bind fun _ => ?_
    unfold logReport
    split
    · exact h.log _ _
    · exact keeps_pure _

theorem keeps_openTunnel (h : Served R) (job : Job) (handler : Handler) :
    Keeps R (openTunnel job handler) := by
  refine (h.tunnel _ _ _).bind fun _ => ?_
  split
  · exact keeps_pure _
  · exact keeps_throw _

theorem keeps_connect (h : Served R) (job : Job) (f : Forwarder) (i : Nat) (handler : Handler) :
    Keeps R (connect job f i handler) := by
  refine (keeps_openTunnel h job handler).attempt.bind fun opened => ?_
  split
  · exact h.takeSocket.bind fun _ => keeps_pure _
  · exact keeps_pure _
  · refine (h.log _ _).bind fun _ => ?_
    exact (keeps_closeConnection h.toHandled _).bind fun _ => keeps_pure _
  · exact keeps_pure _

theorem keeps_podIsGone (h : Served R) (job : Job) : Keeps R (podIsGone job) := by
  refine (h.read _ _).attempt.bind fun read => ?_
  split
  · exact keeps_pure _
  · split
    · exact keeps_pure _
    · exact (h.log _ _).bind fun _ => keeps_pure _
  · exact keeps_pure _

theorem keeps_advance (h : Served R) (job : Job) (f : Forwarder) (i : Nat) (handler : Handler) :
    Keeps R (advance job f i handler) := by
  unfold advance
  split
  · exact keeps_connect h _ _ _ _
  · exact (keeps_podIsGone h _).bind fun _ => keeps_pure _
  · exact (keeps_relay h.toHandled _ _ _ _).bind fun _ => keeps_pure _
  · exact keeps_pure _
  · exact keeps_pure _

/-! ## Runs -/

theorem keeps_release (h : Handled R) (job : Job) (f : Forwarder) : Keeps R (release job f) :=
  (keeps_closeListeners h _).bind fun _ => (keeps_closeRemotes h _).bind fun _ => h.log _ _

theorem keeps_finish (h : Handled R) (job : Job) (ending : Ending) (f : Forwarder) :
    Keeps R (finish job ending f) :=
  (keeps_release h _ _).bind fun _ => keeps_pure _

theorem keeps_start (h : Handled R) {job : Job}
    (hlistening : ∀ address ∈ job.addresses, ∀ n,
      Keeps R (record (.traffic (.listening (endpoint address n))))) : Keeps R (start job) := by
  refine (keeps_listenAll h hlistening _).bind fun listening => ?_
  dsimp only
  split
  · exact keeps_finish h _ _ _
  · exact keeps_pure _

theorem keeps_step (h : Served R) (job : Job) (f : Forwarder) (event : Event) :
    Keeps R (step job f event) := by
  unfold step
  split
  · split
    · exact keeps_pure _
    · split
      · exact keeps_pure _
      · exact keeps_accept h.toHandled _ _
  · split
    · exact keeps_pure _
    · exact keeps_advance h _ _ _ _
  · split
    · exact keeps_pure _
    · split
      · exact keeps_finish h.toHandled _ _ _
      · split
        · exact keeps_finish h.toHandled _ _ _
        · exact keeps_pure _

/-- What every step keeps is kept whatever happens in whatever order. -/
theorem keeps_follow (h : Served R) (job : Job) (f : Forwarder) (events : List Event) :
    Keeps R (follow job f events) := by
  induction events generalizing f with
  | nil => exact keeps_pure _
  | cons event rest ih => exact (keeps_step h _ _ _).bind fun _ => ih _

end PodReach.Forward
