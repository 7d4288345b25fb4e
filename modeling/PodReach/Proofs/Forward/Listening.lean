import Mathlib.Data.List.Nodup
import PodReach.Proofs.Forward.Steps

/-!
# Listening, whatever the network refuses

What comes of listening for ports on addresses is stated for every network, also for one whose
refusals change from attempt to attempt. A port is bound on the addresses that do not refuse it at
their turn, under one number; a port that all addresses refuse ends the attempt. The sockets that
are open afterwards are those that were open before and the listeners, nothing else, as long as
every address can be the name of a host. One that cannot be is a mistake, which is not taken for a
refusal: it ends the attempt, and the socket on which it was made stays open.
-/

namespace PodReach

namespace Network

variable (network : Network)

/-- The next attempt to listen for a port on an address is refused: there is no socket for the
address, or it cannot listen there. -/
def Refuses (address : String) (requested : Nat) : Prop :=
  network.socketFault network.sockets.asked address ≠ none ∨ network.takesHost address = true ∧
    network.refusal network.sockets.asked address (network.portFor requested) ≠ none

/-- The next attempt to listen on an address is a mistake: there is a socket for it, but the address
cannot be the name of a host. -/
def Stumbles (address : String) : Prop :=
  network.socketFault network.sockets.asked address = none ∧ network.takesHost address = false

/-- The network after a refused attempt: the attempt is counted, and a free port is used up if
there was a socket. -/
def afterRefusal (address : String) (requested : Nat) : Network :=
  match network.socketFault network.sockets.asked address with
  | some _ => { network with sockets := network.sockets.skipped }
  | none => { network.portTaken requested with sockets := network.sockets.skipped }

/-- The network after an attempt that is not refused: the new socket listens. -/
def afterJoin (address : String) (requested : Nat) : Network :=
  { network.portTaken requested with
    sockets := network.sockets.joined (address, network.portFor requested) }

/-- The network after a mistake: the socket is there and listens nowhere. -/
def afterStumble : Network :=
  { network with sockets := network.sockets.added }

/-- All addresses refuse a port, each at its turn. -/
def RefusesAll (network : Network) (requested : Nat) : List String → Prop
  | [] => True
  | address :: rest => network.Refuses address requested ∧
      (network.afterRefusal address requested).RefusesAll requested rest

@[simp]
theorem opened_afterRefusal (address : String) (requested : Nat) :
    (network.afterRefusal address requested).sockets.opened = network.sockets.opened := by
  unfold afterRefusal
  split <;> rfl

/-- After so many attempts a network refuses by the same rules. -/
structure Attempted (network : Network) (attempts : Nat) (later : Network) : Prop where
  rules : later = { network with handedOut := later.handedOut, sockets := later.sockets }
  asked : later.sockets.asked = network.sockets.asked + attempts

namespace Attempted

variable {network}

theorem refl (network : Network) : network.Attempted 0 network := ⟨rfl, rfl⟩

theorem trans {first second : Nat} {between later : Network}
    (h : network.Attempted first between) (h' : between.Attempted second later) :
    network.Attempted (first + second) later := by
  constructor
  · rw [h'.rules, h.rules]
  · rw [h'.asked, h.asked, Nat.add_assoc]

theorem freePort {attempts : Nat} {later : Network} (h : network.Attempted attempts later) :
    later.freePort = network.freePort := by
  rw [h.rules]

theorem takesHost {attempts : Nat} {later : Network} (h : network.Attempted attempts later) :
    later.takesHost = network.takesHost := by
  rw [h.rules]

theorem asked_le {attempts : Nat} {later : Network} (h : network.Attempted attempts later) :
    network.sockets.asked ≤ later.sockets.asked := by
  rw [h.asked]
  exact Nat.le_add_right _ _

/-- A refusal is an attempt. -/
theorem refused (network : Network) (address : String) (requested : Nat) :
    network.Attempted 1 (network.afterRefusal address requested) := by
  constructor <;> unfold afterRefusal <;> split <;> rfl

/-- A mistake is an attempt. -/
theorem stumbled (network : Network) : network.Attempted 1 network.afterStumble :=
  ⟨rfl, rfl⟩

/-- A socket that begins to listen is an attempt. -/
theorem joined (network : Network) (address : String) (requested : Nat) :
    network.Attempted 1 (network.afterJoin address requested) :=
  ⟨rfl, rfl⟩

end Attempted

/-- A port number that is asked for is never zero. -/
theorem portFor_ne_zero {network : Network} (hfree : ∀ n, network.freePort n ≠ 0)
    (requested : Nat) : network.portFor requested ≠ 0 := by
  unfold portFor
  split_ifs with hzero
  · exact hfree _
  · exact hzero

theorem portFor_of_ne_zero {requested : Nat} (h : requested ≠ 0) :
    network.portFor requested = requested :=
  if_neg h

/-- A refusal that the new socket gets is one that the network has for it. -/
theorem refusal_added (address : String) (number : Nat) :
    ({ network with sockets := network.sockets.added } : Network).refusal
      network.sockets.asked address number =
        network.refusal network.sockets.asked address number := by
  unfold refusal
  rw [Sockets.listensOn_added]

/-- What is neither refused nor a mistake can listen. -/
theorem accepts_of_not {network : Network} {address : String} {requested : Nat}
    (hrefused : ¬ network.Refuses address requested) (hstumbles : ¬ network.Stumbles address) :
    network.socketFault network.sockets.asked address = none ∧ network.takesHost address = true ∧
      network.refusal network.sockets.asked address (network.portFor requested) = none := by
  simp only [Refuses, Stumbles, not_or, not_not, not_and, Bool.not_eq_false] at hrefused hstumbles
  have hhost := hstumbles hrefused.1
  exact ⟨hrefused.1, hhost, hrefused.2 hhost⟩

/-- What is not refused is not listened on yet. -/
theorem listensOn_of_refusal {socket : Nat} {address : String} {number : Nat}
    (h : network.refusal socket address number = none) :
    network.sockets.listensOn (address, number) = false := by
  unfold refusal at h
  cases hfault : network.bindFault socket address number with
  | some fault =>
      rw [hfault] at h
      cases h
  | none =>
      rw [hfault] at h
      cases hlistens : network.sockets.listensOn (address, number) with
      | false => rfl
      | true =>
          rw [hlistens] at h
          cases h

end Network

namespace Forward

open Run

variable {addresses : List String} {w w' : World}

/-- The place a listener listens on. -/
def Listener.place (l : Listener) : String × Nat :=
  (l.address, l.port.localPort)

/-- The listener that an attempt gives if it is not refused. -/
def Listener.made (network : Network) (address : String) (port : Port) : Listener :=
  ⟨address, { port with localPort := network.portFor port.localPort }, network.sockets.asked⟩

/-- The open socket of a listener. -/
def Listener.toSocket (l : Listener) : Socket :=
  ⟨l.socket, some l.place⟩

/-- What listening did to the sockets: those of the listeners came to those that were open, each
on a place of its own on which nothing listened before, and then the sockets that were left behind,
which listen nowhere. -/
structure Adds (s : Sockets) (listeners : List Listener) (left : List Socket) (s' : Sockets) :
    Prop where
  opened : s'.opened = s.opened ++ (listeners.map Listener.toSocket ++ left)
  asked : s.asked ≤ s'.asked
  fresh : ∀ l ∈ listeners, s.asked ≤ l.socket
  distinct : (listeners.map Listener.place).Nodup
  free : ∀ l ∈ listeners, s.listensOn l.place = false
  apart : ∀ socket ∈ left, s.asked ≤ socket.number ∧ ∀ l ∈ listeners, l.socket ≠ socket.number

namespace Adds

variable {s s' s'' : Sockets} {listeners later : List Listener} {left : List Socket}

theorem nil (hopened : s'.opened = s.opened) (hasked : s.asked ≤ s'.asked) : Adds s [] [] s' where
  opened := by simpa using hopened
  asked := hasked
  fresh := by simp
  distinct := by simp
  free := by simp
  apart := by simp

/-- A listener on a place that was free, with a new socket. -/
theorem single {l : Listener} (hsocket : l.socket = s.asked)
    (hfree : s.listensOn l.place = false) : Adds s [l] [] (s.joined l.place) where
  opened := by simp [Listener.toSocket, hsocket]
  asked := Nat.le_succ _
  fresh := by simp [hsocket]
  distinct := by simp
  free := by simpa using hfree
  apart := by simp

/-- The sockets of the listeners have been made. -/
theorem socket_lt (h : Adds s listeners left s') {l : Listener} (hl : l ∈ listeners) :
    l.socket < s'.asked := by
  refine s'.numbered l.toSocket ?_
  rw [h.opened]
  exact List.mem_append_right _ (List.mem_append_left _ (List.mem_map_of_mem hl))

theorem trans (h : Adds s listeners [] s') (h' : Adds s' later left s'') :
    Adds s (listeners ++ later) left s'' where
  opened := by simp [h'.opened, h.opened]
  asked := Nat.le_trans h.asked h'.asked
  fresh := by
    intro l hl
    rcases List.mem_append.mp hl with hl | hl
    · exact h.fresh l hl
    · exact Nat.le_trans h.asked (h'.fresh l hl)
  distinct := by
    rw [List.map_append, List.nodup_append]
    refine ⟨h.distinct, h'.distinct, ?_⟩
    intro place hplace place' hplace' heq
    obtain ⟨l, hl, rfl⟩ := List.mem_map.mp hplace
    obtain ⟨l', hl', rfl⟩ := List.mem_map.mp hplace'
    -- the later listener would have found the place taken
    have htaken : s'.listensOn l'.place = true := by
      rw [Sockets.listensOn_eq_true_iff, h.opened, ← heq, List.append_nil]
      exact ⟨l.toSocket, List.mem_append_right _ (List.mem_map_of_mem hl), rfl⟩
    rw [h'.free l' hl'] at htaken
    cases htaken
  free := by
    intro l hl
    rcases List.mem_append.mp hl with hl | hl
    · exact h.free l hl
    · have hfree := h'.free l hl
      rw [← Bool.not_eq_true, Sockets.listensOn_eq_true_iff] at hfree ⊢
      rintro ⟨socket, hsocket, hplace⟩
      exact hfree ⟨socket, by rw [h.opened]; exact List.mem_append_left _ hsocket, hplace⟩
  apart := by
    intro socket hsocket
    obtain ⟨hlate, hother⟩ := h'.apart socket hsocket
    refine ⟨Nat.le_trans h.asked hlate, fun l hl => ?_⟩
    rcases List.mem_append.mp hl with hl | hl
    · exact Nat.ne_of_lt (Nat.lt_of_lt_of_le (h.socket_lt hl) hlate)
    · exact hother l hl

/-- A socket that is made and does not listen is left behind. -/
theorem leave (h : Adds s listeners [] s') : Adds s listeners [⟨s'.asked, none⟩] s'.added where
  opened := by simp [h.opened]
  asked := Nat.le_succ_of_le h.asked
  fresh := h.fresh
  distinct := h.distinct
  free := h.free
  apart := by
    intro socket hsocket
    rw [List.mem_singleton.mp hsocket]
    exact ⟨h.asked, fun l hl => Nat.ne_of_lt (h.socket_lt hl)⟩

/-- Closing the listeners restores the sockets, but for those that were left behind. -/
theorem opened_withoutAll (h : Adds s listeners left s') :
    (s'.withoutAll (listeners.map Listener.socket)).opened = s.opened ++ left := by
  rw [Sockets.opened_withoutAll, h.opened, List.filter_append, List.filter_append]
  have hkept : s.opened.filter (fun socket =>
      !(listeners.map Listener.socket).contains socket.number) = s.opened := by
    rw [List.filter_eq_self]
    intro socket hsocket
    have hlt := s.numbered socket hsocket
    rw [Bool.not_eq_true', List.contains_eq_mem, decide_eq_false_iff_not]
    intro hmem
    obtain ⟨l, hl, heq⟩ := List.mem_map.mp hmem
    have hfresh := h.fresh l hl
    omega
  have hclosed : (listeners.map Listener.toSocket).filter (fun socket =>
      !(listeners.map Listener.socket).contains socket.number) = [] := by
    rw [List.filter_eq_nil_iff]
    intro socket hsocket
    obtain ⟨l, hl, rfl⟩ := List.mem_map.mp hsocket
    simpa using ⟨l, hl, rfl⟩
  have hleft : left.filter (fun socket =>
      !(listeners.map Listener.socket).contains socket.number) = left := by
    rw [List.filter_eq_self]
    intro socket hsocket
    simpa using (h.apart socket hsocket).2
  rw [hkept, hclosed, hleft, List.nil_append]

end Adds

/-! ## One port on one address -/

section Attempt

variable {address : String} {port : Port}

/-- A refused attempt leaves no socket and no listener. -/
theorem listenOn_of_refuses (h : w.network.Refuses address port.localPort) :
    ∃ entries, listenOn address port w = (.ok .refused,
      (w.withNetwork (w.network.afterRefusal address port.localPort)).noted entries) := by
  unfold listenOn Network.afterRefusal
  cases hsocket : w.network.socketFault w.network.sockets.asked address with
  | some fault =>
      rw [Run.bind_of_ok (Network.makeSocket_of_fault hsocket)]
      dsimp only
      rw [Run.bind_of_ok (Log.write_apply _ _ _)]
      exact ⟨_, rfl⟩
  | none =>
      obtain ⟨hhost, hrefusal⟩ := h.resolve_left (fun hfault => hfault hsocket)
      obtain ⟨fault, hfault⟩ := Option.ne_none_iff_exists'.mp hrefusal
      rw [← Network.refusal_added] at hfault
      rw [Run.bind_of_ok (Network.makeSocket_of_none hsocket)]
      dsimp only
      rw [Run.bind_of_ok
        (Network.listen_of_refusal (w := w.withSockets w.network.sockets.added) hhost hfault)]
      dsimp only
      rw [Run.bind_of_ok (Network.closeSocket_apply _ _), Run.bind_of_ok (Run.record_apply _ _),
        Run.bind_of_ok (Log.write_apply _ _ _), World.noted_noted, ← Sockets.without_added]
      exact ⟨_, rfl⟩

/-- A mistake leaves the new socket. -/
theorem listenOn_of_stumbles (h : w.network.Stumbles address) :
    listenOn address port w =
      (.ok (.mistaken .wrongKind), w.withNetwork w.network.afterStumble) := by
  obtain ⟨hsocket, hhost⟩ := h
  unfold listenOn
  rw [Run.bind_of_ok (Network.makeSocket_of_none hsocket)]
  dsimp only
  rw [Run.bind_of_ok (Network.listen_of_noHost (w := w.withSockets w.network.sockets.added) hhost)]
  rfl

/-- An attempt that is neither refused nor a mistake gives a listener with a new socket. -/
theorem listenOn_of_free (hrefused : ¬ w.network.Refuses address port.localPort)
    (hstumbles : ¬ w.network.Stumbles address) :
    ∃ entries, listenOn address port w = (.ok (.listening (.made w.network address port)),
      (w.withNetwork (w.network.afterJoin address port.localPort)).noted entries) := by
  obtain ⟨hsocket, hhost, hrefusal⟩ := Network.accepts_of_not hrefused hstumbles
  rw [← Network.refusal_added] at hrefusal
  unfold listenOn
  rw [Run.bind_of_ok (Network.makeSocket_of_none hsocket)]
  dsimp only
  rw [Run.bind_of_ok
    (Network.listen_of_none (w := w.withSockets w.network.sockets.added) hhost hrefusal)]
  dsimp only
  rw [Run.bind_of_ok (Run.record_apply _ _), Run.bind_of_ok (Log.write_apply _ _ _),
    World.noted_noted]
  exact ⟨_, rfl⟩

/-- The listener of such an attempt has a new socket, on a place that was free. -/
theorem Adds.made {network : Network} (hrefused : ¬ network.Refuses address port.localPort)
    (hstumbles : ¬ network.Stumbles address) :
    Adds network.sockets [.made network address port] []
      (network.afterJoin address port.localPort).sockets := by
  obtain ⟨-, -, hrefusal⟩ := Network.accepts_of_not hrefused hstumbles
  exact .single rfl (network.listensOn_of_refusal hrefusal)

end Attempt

/-! ## One port on all addresses -/

/-- A port is bound: it got listeners on some of the addresses, in their order and all under one
number, which is the one that was requested unless any was, and never zero. -/
structure BoundTo (addresses : List String) (port final : Port) (listeners : List Listener) :
    Prop where
  nonempty : listeners ≠ []
  remote : final.remotePort = port.remotePort
  positive : final.localPort ≠ 0
  requested : port.localPort ≠ 0 → final.localPort = port.localPort
  same : ∀ l ∈ listeners, l.port = final
  order : (listeners.map Listener.address).Sublist addresses

namespace BoundTo

variable {port final : Port} {listeners : List Listener} {l : Listener}

/-- A port that has a number keeps it. -/
theorem eq_of_ne_zero (h : BoundTo addresses port final listeners) (hport : port.localPort ≠ 0) :
    final = port := by
  cases final with
  | mk localPort remotePort =>
      obtain rfl : remotePort = port.remotePort := h.remote
      obtain rfl : localPort = port.localPort := h.requested hport
      rfl

/-- An address may be left out. -/
theorem skip (h : BoundTo addresses port final listeners) (address : String) :
    BoundTo (address :: addresses) port final listeners :=
  { h with order := h.order.cons address }

/-- The first listener decides about the number. -/
theorem first (hpositive : l.port.localPort ≠ 0) (hremote : l.port.remotePort = port.remotePort)
    (hrequested : port.localPort ≠ 0 → l.port.localPort = port.localPort)
    (hsame : ∀ other ∈ listeners, other.port = l.port)
    (horder : (listeners.map Listener.address).Sublist addresses) :
    BoundTo (l.address :: addresses) port l.port (l :: listeners) where
  nonempty := List.cons_ne_nil _ _
  remote := hremote
  positive := hpositive
  requested := hrequested
  same := List.forall_mem_cons.mpr ⟨rfl, hsame⟩
  order := horder.cons_cons l.address

end BoundTo

/-- What came of offering a port to addresses that made no mistake: no socket if all of them refuse,
each at its turn, and otherwise the port is bound. -/
structure Offered (addresses : List String) (port : Port) (network : Network) (final : Port)
    (listeners : List Listener) (after : Network) : Prop where
  attempted : network.Attempted addresses.length after
  adds : Adds network.sockets listeners [] after.sockets
  cases : network.RefusesAll port.localPort addresses ∧ final = port ∧ listeners = [] ∨
    ¬ network.RefusesAll port.localPort addresses ∧ BoundTo addresses port final listeners

namespace Offered

variable {address : String} {port final : Port} {network after : Network}
  {listeners : List Listener}

theorem nil (port : Port) (network : Network) : Offered [] port network port [] network :=
  ⟨.refl _, .nil rfl (Nat.le_refl _), Or.inl ⟨trivial, rfl, rfl⟩⟩

/-- The first address refuses. -/
theorem skip (hrefused : network.Refuses address port.localPort)
    (h : Offered addresses port (network.afterRefusal address port.localPort) final listeners
      after) : Offered (address :: addresses) port network final listeners after where
  attempted := by
    rw [List.length_cons, Nat.add_comm]
    exact (Network.Attempted.refused network address port.localPort).trans h.attempted
  adds := by
    have hnone : Adds network.sockets [] []
        (network.afterRefusal address port.localPort).sockets :=
      .nil (network.opened_afterRefusal address port.localPort)
        (Network.Attempted.refused network address port.localPort).asked_le
    exact hnone.trans h.adds
  cases := by
    rcases h.cases with ⟨hall, hfinal, hlisteners⟩ | ⟨hnot, hbound⟩
    · exact Or.inl ⟨⟨hrefused, hall⟩, hfinal, hlisteners⟩
    · exact Or.inr ⟨fun hall => hnot hall.2, hbound.skip address⟩

/-- The first address is listened on. -/
theorem first (hfree : ∀ n, network.freePort n ≠ 0)
    (hrefused : ¬ network.Refuses address port.localPort) (hstumbles : ¬ network.Stumbles address)
    (h : Offered addresses (Listener.made network address port).port
      (network.afterJoin address port.localPort) final listeners after) :
    Offered (address :: addresses) port network final (.made network address port :: listeners)
      after where
  attempted := by
    rw [List.length_cons, Nat.add_comm]
    exact (Network.Attempted.joined network address port.localPort).trans h.attempted
  adds := (Adds.made hrefused hstumbles).trans h.adds
  cases := by
    have hpositive := Network.portFor_ne_zero hfree port.localPort
    -- the port has a number by now, so the other addresses keep it
    obtain ⟨rfl, hsame, horder⟩ : final = (Listener.made network address port).port ∧
        (∀ other ∈ listeners, other.port = (Listener.made network address port).port) ∧
        (listeners.map Listener.address).Sublist addresses := by
      rcases h.cases with ⟨-, rfl, rfl⟩ | ⟨-, hbound⟩
      · exact ⟨rfl, nofun, List.nil_sublist _⟩
      · obtain rfl := hbound.eq_of_ne_zero hpositive
        exact ⟨rfl, hbound.same, hbound.order⟩
    exact Or.inr ⟨fun hall => hrefused hall.1, .first hpositive (show _ = port.remotePort from rfl)
      network.portFor_of_ne_zero hsame horder⟩

end Offered

/-- What comes of listening for a port on all addresses: it is offered to all of them, or to those
before one that is a mistake. -/
inductive Spread (addresses : List String) (port : Port) (network : Network) :
    Everywhere → Network → Prop
  | all {final : Port} {listeners : List Listener} {after : Network}
      (offered : Offered addresses port network final listeners after) :
      Spread addresses port network ⟨final, listeners, none⟩ after
  | mistaken {before later : List String} {address : String} {final : Port}
      {listeners : List Listener} {between : Network}
      (split : addresses = before ++ address :: later)
      (offered : Offered before port network final listeners between)
      (stumbles : between.Stumbles address) :
      Spread addresses port network ⟨final, listeners, some .wrongKind⟩ between.afterStumble

namespace Spread

variable {address : String} {port : Port} {network after : Network} {outcome : Everywhere}

theorem skip (hrefused : network.Refuses address port.localPort)
    (h : Spread addresses port (network.afterRefusal address port.localPort) outcome after) :
    Spread (address :: addresses) port network outcome after := by
  cases h with
  | all offered => exact .all (offered.skip hrefused)
  | mistaken split offered stumbles =>
      exact .mistaken (congrArg (address :: ·) split) (offered.skip hrefused) stumbles

theorem first (hfree : ∀ n, network.freePort n ≠ 0)
    (hrefused : ¬ network.Refuses address port.localPort) (hstumbles : ¬ network.Stumbles address)
    (h : Spread addresses (Listener.made network address port).port
      (network.afterJoin address port.localPort) outcome after) :
    Spread (address :: addresses) port network
      { outcome with listeners := .made network address port :: outcome.listeners } after := by
  cases h with
  | all offered => exact .all (offered.first hfree hrefused hstumbles)
  | mistaken split offered stumbles =>
      exact .mistaken (congrArg (address :: ·) split) (offered.first hfree hrefused hstumbles)
        stumbles

end Spread

/-- Listening for a port on all addresses always comes to something. -/
theorem listenEverywhere_spread (port : Port) (addresses : List String) (w : World)
    (hfree : ∀ n, w.network.freePort n ≠ 0) :
    ∃ outcome w', listenEverywhere port addresses w = (.ok outcome, w') ∧
      Spread addresses port w.network outcome w'.network := by
  induction addresses generalizing port w with
  | nil => exact ⟨_, w, rfl, .all (.nil port w.network)⟩
  | cons address rest ih =>
      unfold listenEverywhere
      by_cases hrefused : w.network.Refuses address port.localPort
      · obtain ⟨entries, hattempt⟩ := listenOn_of_refuses hrefused
        have hnext := Network.Attempted.refused w.network address port.localPort
        obtain ⟨outcome, w', hrun, hspread⟩ := ih port
          ((w.withNetwork (w.network.afterRefusal address port.localPort)).noted entries)
          (fun n => (congrFun hnext.freePort n).symm ▸ hfree n)
        exact ⟨outcome, w', (Run.bind_of_ok hattempt).trans hrun, hspread.skip hrefused⟩
      · by_cases hstumbles : w.network.Stumbles address
        · exact ⟨_, _, Run.bind_of_ok (listenOn_of_stumbles hstumbles),
            .mistaken rfl (.nil port w.network) hstumbles⟩
        · obtain ⟨entries, hattempt⟩ := listenOn_of_free hrefused hstumbles
          obtain ⟨outcome, w', hrun, hspread⟩ := ih (Listener.made w.network address port).port
            ((w.withNetwork (w.network.afterJoin address port.localPort)).noted entries) hfree
          refine ⟨_, w', ?_, hspread.first hfree hrefused hstumbles⟩
          rw [Run.bind_of_ok hattempt]
          dsimp only
          rw [Run.bind_of_ok hrun]
          rfl

/-! ## All ports -/

/-- What listening for ports comes to, from one state of the network to another: port after port is
bound, until one is refused by all addresses, an address is a mistake, or all are bound. -/
inductive Listens (addresses : List String) : Network → List Port → Listening → Network → Prop
  | done (network : Network) : Listens addresses network [] ⟨[], [], none⟩ network
  | bound {network between after : Network} {port final : Port} {rest : List Port}
      {listeners : List Listener} {others : Listening}
      (accepted : ¬ network.RefusesAll port.localPort addresses)
      (bound : BoundTo addresses port final listeners)
      (attempted : network.Attempted addresses.length between)
      (adds : Adds network.sockets listeners [] between.sockets)
      (further : Listens addresses between rest others after) :
      Listens addresses network (port :: rest)
        ⟨final :: others.ports, listeners ++ others.listeners, others.ending⟩ after
  | refused {network after : Network} {port : Port} {rest : List Port}
      (refused : network.RefusesAll port.localPort addresses)
      (attempted : network.Attempted addresses.length after)
      (adds : Adds network.sockets [] [] after.sockets) :
      Listens addresses network (port :: rest)
        ⟨port :: rest, [], some (.failed (.cannotListen addresses port.localPort))⟩ after
  | mistaken {network between : Network} {port final : Port} {rest : List Port}
      {before later : List String} {address : String} {listeners : List Listener}
      (split : addresses = before ++ address :: later)
      (offered : Offered before port network final listeners between)
      (stumbles : between.Stumbles address) :
      Listens addresses network (port :: rest)
        ⟨final :: rest, listeners, some (.mistaken .wrongKind)⟩ between.afterStumble

/-- Only a mistake leaves a socket behind, and then an address is no host. -/
def Leaves (addresses : List String) (network : Network) (ending : Option Ending)
    (left : List Socket) : Prop :=
  left = [] ∧ ending ≠ some (.mistaken .wrongKind) ∨
    left.length = 1 ∧ ending = some (.mistaken .wrongKind) ∧
      ∃ address ∈ addresses, network.takesHost address = false

theorem Listens.adds {network after : Network} {ports : List Port} {listening : Listening}
    (h : Listens addresses network ports listening after) :
    ∃ left, Adds network.sockets listening.listeners left after.sockets ∧
      Leaves addresses network listening.ending left := by
  induction h with
  | done network => exact ⟨[], .nil rfl (Nat.le_refl _), Or.inl ⟨rfl, nofun⟩⟩
  | bound _ _ attempted adds _ ih =>
      obtain ⟨left, hadds, hleaves⟩ := ih
      unfold Leaves at hleaves
      rw [attempted.takesHost] at hleaves
      exact ⟨left, adds.trans hadds, hleaves⟩
  | refused _ _ adds => exact ⟨[], adds, Or.inl ⟨rfl, nofun⟩⟩
  | mistaken split offered stumbles =>
      refine ⟨_, offered.adds.leave, Or.inr ⟨rfl, rfl, _, ?_, offered.attempted.takesHost ▸
        stumbles.2⟩⟩
      rw [split]
      exact List.mem_append_right _ List.mem_cons_self

/-- Listening always comes to something. -/
theorem listenAll_listens (addresses : List String) (ports : List Port) (w : World)
    (hfree : ∀ n, w.network.freePort n ≠ 0) :
    ∃ listening w', listenAll addresses ports w = (.ok listening, w') ∧
      Listens addresses w.network ports listening w'.network := by
  induction ports generalizing w with
  | nil => exact ⟨_, w, rfl, .done _⟩
  | cons port rest ih =>
      obtain ⟨outcome, v, hrun, hspread⟩ := listenEverywhere_spread port addresses w hfree
      unfold listenAll
      rw [Run.bind_of_ok hrun]
      generalize hnetwork : v.network = network at hspread
      cases hspread with
      | mistaken split offered stumbles =>
          refine ⟨_, v, rfl, ?_⟩
          rw [hnetwork]
          exact .mistaken split offered stumbles
      | all offered =>
          obtain ⟨hattempted, hadds, hcases⟩ := offered
          rw [← hnetwork] at hattempted hadds
          rcases hcases with ⟨hall, rfl, rfl⟩ | ⟨hnot, hbound⟩
          · exact ⟨_, v, rfl, .refused hall hattempted hadds⟩
          · obtain ⟨others, w', hothers, hlistens⟩ := ih v
              (fun n => (congrFun hattempted.freePort n).symm ▸ hfree n)
            refine ⟨_, w', ?_, .bound hnot hbound hattempted hadds hlistens⟩
            dsimp only
            rw [if_neg (by simpa using hbound.nonempty), Run.bind_of_ok hothers]
            rfl

/-! ## Runs that cannot listen -/

/-- A run that is over and has no connections does nothing more. -/
theorem follow_over (job : Job) {f : Forwarder} (hended : f.ending ≠ none)
    (hhandlers : f.handlers = []) (events : List Event) (w : World) :
    follow job f events w = (.ok f, w) := by
  have hover : f.ending.isSome = true := Option.isSome_iff_ne_none.mpr hended
  have hstep : ∀ event, step job f event w = (.ok f, w) := by
    intro event
    unfold step
    cases event with
    | poll i =>
        dsimp only
        cases f.listeners[i]? with
        | none => rfl
        | some l =>
            dsimp only
            rw [if_pos (by rw [hover, Bool.true_or])]
            rfl
    | progress i =>
        rw [hhandlers]
        rfl
    | look stopped =>
        dsimp only
        rw [if_pos hover]
        rfl
  induction events with
  | nil => rfl
  | cons event rest ih => exact (Run.bind_of_ok (hstep event)).trans ih

/-- A run that cannot listen ends at once, whatever was to happen, and closes the listeners that
it has. -/
theorem forward_of_ended {job : Job} {listening : Listening} {ending : Ending} {v : World}
    (hlisten : listenAll job.addresses job.ports w = (.ok listening, v))
    (hending : listening.ending = some ending) (schedule : Schedule) :
    ∃ f w', forward job schedule w = (.ok f, w') ∧ f.ready = false ∧ f.ending = some ending ∧
      w'.network.sockets =
        v.network.sockets.withoutAll (listening.listeners.map Listener.socket) := by
  obtain ⟨w', hfinish, hsockets⟩ := finish_apply job ending (.ofListening listening) v
  have hstart : start job w = (.ok
      { Forwarder.ofListening listening with tunnels := [], ending := some ending }, w') := by
    unfold start
    rw [Run.bind_of_ok hlisten]
    dsimp only
    rw [hending]
    exact hfinish
  have hover := follow_over job (f := { Forwarder.ofListening listening with
    tunnels := [], ending := some ending }) nofun rfl
    (schedule w'.network listening.listeners) w'
  refine ⟨_, w', (Run.bind_of_ok hstart).trans hover, ?_, rfl, ?_⟩
  · simp [Forwarder.ofListening, hending]
  · rw [hsockets]
    simp [Forwarder.ofListening]

/-- Listening always comes to something. Each port is bound under one number on addresses that do
not refuse it, or is the first one that they all refuse; the open sockets are those from before and
the listeners, each on a place of its own. If a port is refused, the whole run fails without having
been ready, and no socket of it is left. If all addresses are those of hosts, nothing else can
happen. An address that is none is a mistake: the run ends by it as well, without having been ready,
but the socket that was made for the address stays open. -/
theorem listening_law (job : Job) (w : World) (hfree : ∀ n, w.network.freePort n ≠ 0) :
    ∃ listening v left, listenAll job.addresses job.ports w = (.ok listening, v) ∧
      Listens job.addresses w.network job.ports listening v.network ∧
      v.network.sockets.opened =
        w.network.sockets.opened ++ (listening.listeners.map Listener.toSocket ++ left) ∧
      (listening.listeners.map Listener.place).Nodup ∧
      Leaves job.addresses w.network listening.ending left ∧
      (listening.ending = none → start job w = (.ok (.ofListening listening), v)) ∧
      ∀ ending, listening.ending = some ending → ∀ schedule, ∃ f w',
        forward job schedule w = (.ok f, w') ∧ f.ready = false ∧ f.ending = some ending ∧
        w'.network.sockets.opened = w.network.sockets.opened ++ left := by
  obtain ⟨listening, v, hlisten, hlistens⟩ := listenAll_listens job.addresses job.ports w hfree
  obtain ⟨left, hadds, hleaves⟩ := hlistens.adds
  refine ⟨listening, v, left, hlisten, hlistens, hadds.opened, hadds.distinct, hleaves, ?_, ?_⟩
  · intro hnone
    unfold start
    rw [Run.bind_of_ok hlisten, hnone]
    rfl
  · intro ending hending schedule
    obtain ⟨f, w', hforward, hready, hended, hsockets⟩ := forward_of_ended hlisten hending schedule
    exact ⟨f, w', hforward, hready, hended, by rw [hsockets, hadds.opened_withoutAll]⟩

/-- Of two ports, the first can be bound on one of two addresses and the second on neither. The run
fails for the second, and the listener for the first is closed. -/
theorem listening_second_refused :
    let job : Job := ⟨some "web-0", .text "default", [⟨0, 80⟩, ⟨9090, 90⟩], ["127.0.0.1", "::1"]⟩
    let w := { World.empty with network := { Network.quiet with
      socketFault := fun _ address => if address = "::1" then some "no such family" else none
      bindFault := fun _ _ number => if number = 9090 then some "in use" else none } }
    (∀ n, w.network.freePort n ≠ 0) ∧
      ∃ listening v, listenAll job.addresses job.ports w = (.ok listening, v) ∧
        listening = ⟨[⟨40000, 80⟩, ⟨9090, 90⟩], [⟨"127.0.0.1", ⟨40000, 80⟩, 0⟩],
          some (.failed (.cannotListen ["127.0.0.1", "::1"] 9090))⟩ ∧
        Listens job.addresses w.network job.ports listening v.network ∧
        ∀ schedule, ∃ f w', forward job schedule w = (.ok f, w') ∧ f.ready = false ∧
          w'.network.sockets.opened = [] := by
  intro job w
  have hfree : ∀ n, w.network.freePort n ≠ 0 := by
    intro n
    change 40000 + n ≠ 0
    omega
  obtain ⟨listening, v, left, hlisten, hlistens, -, -, hleaves, -, hfails⟩ :=
    listening_law job w hfree
  have houtcome : (listenAll job.addresses job.ports w).1 =
      .ok ⟨[⟨40000, 80⟩, ⟨9090, 90⟩], [⟨"127.0.0.1", ⟨40000, 80⟩, 0⟩],
        some (.failed (.cannotListen ["127.0.0.1", "::1"] 9090))⟩ := by decide +kernel
  rw [hlisten] at houtcome
  obtain rfl := Except.ok.inj houtcome
  obtain ⟨rfl, -⟩ | ⟨-, hmistaken, -⟩ := hleaves
  · refine ⟨hfree, _, v, hlisten, rfl, hlistens, fun schedule => ?_⟩
    obtain ⟨f, w', hforward, hready, -, hopened⟩ := hfails _ rfl schedule
    exact ⟨f, w', hforward, hready, hopened⟩
  · cases hmistaken

/-- The first of two addresses can be listened on; the second one is too long to be the name of a
host. That is not a failure to listen, though the port is bound: the run ends by a mistake, and the
socket that was made for the second address stays open. -/
theorem listening_no_host :
    let name := String.ofList (List.replicate 64 'é')
    let job : Job := ⟨some "web-0", .text "default", [⟨8080, 80⟩], ["127.0.0.1", name]⟩
    let w := { World.empty with network := { Network.quiet with
      takesHost := fun address => address ≠ name } }
    let run := forward job (fun _ _ => []) w
    (∀ n, w.network.freePort n ≠ 0) ∧ w.network.sockets.opened = [] ∧
      run.1.map (fun f => (f.ready, f.ending)) = .ok (false, some (.mistaken .wrongKind)) ∧
      run.2.network.sockets.opened = [⟨1, none⟩] := by
  intro name job w run
  have hfree : ∀ n, w.network.freePort n ≠ 0 := by
    intro n
    change 40000 + n ≠ 0
    omega
  exact ⟨hfree, rfl, by decide +kernel, by decide +kernel⟩

end Forward

end PodReach
