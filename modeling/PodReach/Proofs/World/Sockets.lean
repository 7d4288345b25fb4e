import PodReach.Proofs.World.Frames
import PodReach.World.Sockets

/-!
# What happens to sockets

The actions on sockets as equations, and what they do to the sockets that are open: a new socket
comes last, and closing one leaves every other as it was.
-/

namespace PodReach

namespace Sockets

variable (s : Sockets) {number : Nat} {place : String × Nat}

@[simp]
theorem opened_skipped : s.skipped.opened = s.opened := rfl

@[simp]
theorem opened_added : s.added.opened = s.opened ++ [⟨s.asked, none⟩] := rfl

@[simp]
theorem opened_without (number : Nat) :
    (s.without number).opened = s.opened.filter fun socket => socket.number != number := rfl

/-- Whether a socket is open. -/
def IsOpen (number : Nat) : Prop :=
  ∃ socket ∈ s.opened, socket.number = number

theorem isOpen_added {number : Nat} :
    s.added.IsOpen number ↔ s.IsOpen number ∨ number = s.asked := by
  simp [IsOpen, or_and_right, exists_or, eq_comm]

theorem isOpen_without {number closed : Nat} :
    (s.without closed).IsOpen number ↔ s.IsOpen number ∧ number ≠ closed := by
  constructor
  · rintro ⟨socket, hsocket, rfl⟩
    obtain ⟨hmem, hne⟩ := List.mem_filter.mp hsocket
    exact ⟨⟨socket, hmem, rfl⟩, by simpa using hne⟩
  · rintro ⟨⟨socket, hmem, rfl⟩, hne⟩
    exact ⟨socket, List.mem_filter.mpr ⟨hmem, by simpa using hne⟩, rfl⟩

theorem not_isOpen_without (number : Nat) : ¬ (s.without number).IsOpen number :=
  fun hopen => (s.isOpen_without.mp hopen).2 rfl

/-- A number that was not given away yet has no socket. -/
theorem filter_fresh (hfresh : s.asked ≤ number) :
    s.opened.filter (fun socket => socket.number != number) = s.opened := by
  rw [List.filter_eq_self]
  intro socket hsocket
  have hlt := s.numbered socket hsocket
  simp only [bne_iff_ne, ne_eq]
  omega

/-- A socket that is made and closed again leaves only its number behind. -/
theorem without_added : s.added.without s.asked = s.skipped := by
  ext1
  · rfl
  · rw [opened_without, opened_added, List.filter_append, s.filter_fresh (Nat.le_refl _)]
    simp

/-- The sockets with a new one that listens on a place. -/
def joined (place : String × Nat) : Sockets :=
  s.added.placed s.asked place

@[simp]
theorem opened_joined : (s.joined place).opened = s.opened ++ [⟨s.asked, some place⟩] := by
  have hkept : ∀ socket ∈ s.opened,
      (if socket.number = s.asked then { socket with place := some place } else socket) =
        id socket := by
    intro socket hsocket
    exact if_neg (Nat.ne_of_lt (s.numbered socket hsocket))
  simp only [joined, placed, opened_added, List.map_append, List.map_congr_left hkept,
    List.map_id, List.map_cons, List.map_nil, if_true]

/-- A socket that listens nowhere takes no place. -/
theorem listensOn_added : s.added.listensOn place = s.listensOn place := by
  simp [listensOn]

theorem listensOn_eq_true_iff : s.listensOn place = true ↔
    ∃ socket ∈ s.opened, socket.place = some place := by
  simp [listensOn]

/-- The sockets when several of them are closed. -/
def withoutAll (numbers : List Nat) : Sockets :=
  numbers.foldl without s

theorem withoutAll_append (numbers later : List Nat) :
    s.withoutAll (numbers ++ later) = (s.withoutAll numbers).withoutAll later :=
  List.foldl_append

theorem isOpen_withoutAll {numbers : List Nat} :
    (s.withoutAll numbers).IsOpen number ↔ s.IsOpen number ∧ number ∉ numbers := by
  induction numbers generalizing s with
  | nil => simp [withoutAll]
  | cons closed numbers ih =>
      change ((s.without closed).withoutAll numbers).IsOpen number ↔ _
      rw [ih, isOpen_without, List.mem_cons, not_or, and_assoc]

theorem asked_withoutAll (numbers : List Nat) : (s.withoutAll numbers).asked = s.asked := by
  induction numbers generalizing s with
  | nil => rfl
  | cons number numbers ih => exact ih (s.without number)

theorem opened_withoutAll (numbers : List Nat) :
    (s.withoutAll numbers).opened =
      s.opened.filter fun socket => !numbers.contains socket.number := by
  induction numbers generalizing s with
  | nil => exact (List.filter_eq_self.mpr fun _ _ => rfl).symm
  | cons number numbers ih =>
      change ((s.without number).withoutAll numbers).opened = _
      rw [ih, opened_without, List.filter_filter]
      congr 1
      funext socket
      rw [List.contains_cons, Bool.not_or, Bool.and_comm]
      rfl

/-- In a later state no socket is open again that was closed before. -/
structure Later (s s' : Sockets) : Prop where
  asked : s.asked ≤ s'.asked
  opened : ∀ number < s.asked, s'.IsOpen number → s.IsOpen number

namespace Later

variable {s} {s' s'' : Sockets}

theorem refl (s : Sockets) : s.Later s := ⟨Nat.le_refl _, fun _ _ h => h⟩

theorem trans (h : s.Later s') (h' : s'.Later s'') : s.Later s'' where
  asked := Nat.le_trans h.asked h'.asked
  opened := fun number hnumber hopen =>
    h.opened number hnumber (h'.opened number (Nat.lt_of_lt_of_le hnumber h.asked) hopen)

theorem added (s : Sockets) : s.Later s.added where
  asked := Nat.le_succ _
  opened := by
    intro number hnumber hopen
    exact (s.isOpen_added.mp hopen).resolve_right (Nat.ne_of_lt hnumber)

theorem without (s : Sockets) (number : Nat) : s.Later (s.without number) where
  asked := Nat.le_refl _
  opened := fun _ _ hopen => (s.isOpen_without.mp hopen).1

theorem withoutAll (s : Sockets) (numbers : List Nat) : s.Later (s.withoutAll numbers) where
  asked := Nat.le_of_eq (s.asked_withoutAll numbers).symm
  opened := fun _ _ hopen => (s.isOpen_withoutAll.mp hopen).1

end Later

end Sockets

namespace World

/-- The world with another network. -/
def withNetwork (w : World) (network : Network) : World :=
  { w with network := network }

/-- The world with other sockets. -/
def withSockets (w : World) (sockets : Sockets) : World :=
  w.withNetwork { w.network with sockets := sockets }

/-- The sockets of two worlds are the same. -/
def SameSockets (w w' : World) : Prop :=
  w'.network.sockets = w.network.sockets

instance : Std.Refl SameSockets :=
  ⟨fun _ => rfl⟩

instance : IsTrans World SameSockets :=
  ⟨fun _ _ _ h h' => h'.trans h⟩

theorem SameSockets.later {w w' : World} (h : w.SameSockets w') :
    w.network.sockets.Later w'.network.sockets := by
  rw [show w'.network.sockets = w.network.sockets from h]
  exact .refl _

end World

theorem Run.sameSockets_record (entry : Entry) : Succeeds World.SameSockets (record entry) := by
  intro w
  exact ⟨(), _, record_apply entry w, rfl⟩

theorem Cluster.sameSockets_request (service : Service) (call : Call) :
    Run.Keeps World.SameSockets (request service call) := by
  intro w
  rw [request_apply]
  rfl

theorem Cluster.sameSockets_readPod (name : Option String) (ns : Yaml) :
    Run.Keeps World.SameSockets (readPod name ns) := by
  refine (sameSockets_request _ _).bind fun _ => Run.keeps_get.bind fun w => ?_
  cases w.cluster.pods.find? fun pod => pod.name? == name && liesIn ns pod with
  | none => exact Run.keeps_throw _
  | some pod => exact Run.keeps_pure pod

namespace Network

variable {w : World} {socket requested : Nat} {address : String}

theorem makeSocket_of_fault {fault : String}
    (h : w.network.socketFault w.network.sockets.asked address = some fault) :
    makeSocket address w = (.ok (.error fault), w.withSockets w.network.sockets.skipped) := by
  unfold makeSocket
  rw [Run.bind_of_ok (Run.get_apply w), h]
  rfl

theorem makeSocket_of_none (h : w.network.socketFault w.network.sockets.asked address = none) :
    makeSocket address w =
      (.ok (.ok w.network.sockets.asked), w.withSockets w.network.sockets.added) := by
  unfold makeSocket
  rw [Run.bind_of_ok (Run.get_apply w), h]
  rfl

theorem takeSocket_apply (w : World) :
    takeSocket w = (.ok w.network.sockets.asked, w.withSockets w.network.sockets.added) := rfl

theorem closeSocket_apply (number : Nat) (w : World) :
    closeSocket number w = (.ok (), w.withSockets (w.network.sockets.without number)) := rfl

/-- What is no host is found out before a port is asked for. -/
theorem listen_of_noHost (hhost : w.network.takesHost address = false) :
    listen socket address requested w = (.ok (.error .noHost), w) := by
  unfold listen
  rw [Run.bind_of_ok (Run.get_apply w), hhost]
  rfl

theorem listen_of_refusal {fault : String} (hhost : w.network.takesHost address = true)
    (h : w.network.refusal socket address (w.network.portFor requested) = some fault) :
    listen socket address requested w =
      (.ok (.error (.refused fault)), w.withNetwork (w.network.portTaken requested)) := by
  unfold listen
  rw [Run.bind_of_ok (Run.get_apply w)]
  simp only [hhost, h, Bool.not_true, Bool.false_eq_true, if_false]
  rfl

theorem listen_of_none (hhost : w.network.takesHost address = true)
    (h : w.network.refusal socket address (w.network.portFor requested) = none) :
    listen socket address requested w =
      (.ok (.ok (w.network.portFor requested)),
        (w.withNetwork (w.network.portTaken requested)).withSockets
          (w.network.sockets.placed socket (address, w.network.portFor requested))) := by
  unfold listen
  rw [Run.bind_of_ok (Run.get_apply w)]
  simp only [hhost, h, Bool.not_true, Bool.false_eq_true, if_false]
  rfl

/-- Looking for what arrives touches no socket. -/
theorem sameSockets_nextArrival (endpoint : String) :
    Run.Succeeds World.SameSockets (nextArrival endpoint) := by
  intro w
  unfold nextArrival
  rw [Run.bind_of_ok (Run.get_apply w)]
  cases w.network.arrivals.lookup endpoint with
  | none => exact ⟨none, w, rfl, rfl⟩
  | some arrivals =>
      cases arrivals with
      | nil => exact ⟨none, w, rfl, rfl⟩
      | cons arrival rest => exact ⟨some arrival, _, rfl, rfl⟩

end Network

end PodReach
