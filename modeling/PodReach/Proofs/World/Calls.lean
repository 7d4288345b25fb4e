import Mathlib.Tactic.Choose
import PodReach.Proofs.World.Frames

/-!
# What a cluster was asked

The calls of a run are read off its journal. What a cluster answers to a call depends on nothing but
the cluster, and so does what the call makes of the cluster. So a call that was written down can be
asked again, and a whole run of calls can be followed from the cluster that they began with.
-/

namespace PodReach

open Run

/-- The world with another cluster. -/
def World.withCluster (w : World) (cluster : Cluster) : World :=
  { w with cluster := cluster }

/-! ## Actions that only see the cluster -/

section OfCluster

variable {α β : Type} {action : Run α} {next : α → Run β}

/-- The outcome of an action and the cluster that it leaves depend on the cluster alone, and nothing
else of the world changes. -/
def Run.OfCluster (action : Run α) : Prop :=
  ∃ answer : Cluster → Except Halt α × Cluster,
    ∀ w, action w = ((answer w.cluster).1, w.withCluster (answer w.cluster).2)

theorem ofCluster_of_idle {outcome : Except Halt α} (h : ∀ w, action w = (outcome, w)) :
    OfCluster action :=
  ⟨fun cluster => (outcome, cluster), h⟩

theorem ofCluster_pure (a : α) : OfCluster (pure a : Run α) :=
  ofCluster_of_idle fun _ => rfl

theorem ofCluster_throw (halt : Halt) : OfCluster (throw halt : Run α) :=
  ofCluster_of_idle fun _ => rfl

theorem ofCluster_unlessBroken (fault : Option Fault) : OfCluster (unlessBroken fault) :=
  ofCluster_of_idle (unlessBroken_apply fault)

theorem ofCluster_update (f : Cluster → Cluster) : OfCluster (Cluster.update f) :=
  ⟨fun cluster => (.ok (), f cluster), fun _ => rfl⟩

theorem ofCluster_found (a : Option α) : OfCluster (Cluster.found a) := by
  cases a with
  | some a => exact ofCluster_pure a
  | none => exact ofCluster_throw _

theorem ofCluster_lookupName (name : Yaml) : OfCluster (Cluster.lookupName name) := by
  unfold Cluster.lookupName
  split
  · exact ofCluster_pure _
  · exact ofCluster_throw _

theorem Run.OfCluster.bind (h : OfCluster action) (hnext : ∀ a, OfCluster (next a)) :
    OfCluster (action >>= next) := by
  obtain ⟨answer, hanswer⟩ := h
  choose answers hanswers using hnext
  refine ⟨fun cluster => match (answer cluster).1 with
    | .ok a => answers a (answer cluster).2
    | .error halt => (.error halt, (answer cluster).2), fun w => ?_⟩
  rw [bind_apply, hanswer]
  cases houtcome : (answer w.cluster).1 with
  | ok a =>
      simp only [houtcome]
      exact hanswers a _
  | error halt => simp only [houtcome]

/-- Looking at the world is looking at the cluster if nothing else is made use of. -/
theorem ofCluster_get {next : World → Run α} (h : ∀ v, OfCluster (next v))
    (hsame : ∀ v v', v.cluster = v'.cluster → next v = next v') : OfCluster (get >>= next) := by
  choose answers hanswers using h
  refine ⟨fun cluster => answers (World.empty.withCluster cluster) cluster, fun w => ?_⟩
  rw [bind_of_ok (get_apply w), hsame w (World.empty.withCluster w.cluster) rfl]
  exact hanswers _ w

end OfCluster

/-! ## Calls -/

namespace Call

/-- The service that a call is for; a call to another program is for none. -/
def service? : Call → Option Service
  | listPods .. => some .listPods
  | readPod .. => some .readPod
  | readNamespace .. => some .readNamespace
  | createNamespace .. => some .createNamespace
  | readBinding .. => some .readBinding
  | createBinding .. => some .createBinding
  | readDeployment .. => some .readDeployment
  | readServiceAccount .. => some .readServiceAccount
  | patchServiceAccount .. => some .patchServiceAccount
  | openStream .. => some .openStream
  | openPortForward .. => some .openPortForward
  | readLog .. => some .readLog
  | process .. => none

/-- The namespace that a call is about, if it is about one. -/
def ns? : Call → Option Yaml
  | listPods ns _ => some ns
  | readPod _ ns => some ns
  | readNamespace name => some name
  | createNamespace name => some name
  | readDeployment _ ns => some ns
  | readServiceAccount _ ns => some ns
  | patchServiceAccount _ ns _ => some ns
  | openStream _ ns _ _ _ => some ns
  | openPortForward _ ns _ => some ns
  | readLog _ ns _ _ _ => some ns
  | readBinding _ | createBinding _ | process _ _ => none

/-- Ask something that was asked before. A tunnel may be refused for a reason of its connection,
which the call does not tell. -/
def ask : Call → Run Unit
  | listPods ns selector => do let _ ← Cluster.listPods ns selector
  | readPod name ns => do let _ ← Cluster.readPod name ns
  | readNamespace name => Cluster.readNamespace name
  | createNamespace name => Cluster.createNamespace name
  | readBinding name => Cluster.readBinding name
  | createBinding body => Cluster.createBinding body
  | readDeployment name ns => do let _ ← Cluster.readDeployment name ns
  | readServiceAccount name ns => do let _ ← Cluster.readServiceAccount name ns
  | patchServiceAccount name ns body => Cluster.patchServiceAccount name ns body
  | openStream pod ns container command tty => do
    let _ ← Cluster.openStream pod ns container command tty
  | openPortForward pod ns ports => Cluster.request .openPortForward (.openPortForward pod ns ports)
  | readLog pod ns container follow tail => do
    let _ ← Cluster.readLog pod ns container follow tail
  | process command timeout => do let _ ← runProcess command timeout

end Call

namespace Cluster

/-- The fault that a cluster answers a call with, if it does. -/
def refusal? (cluster : Cluster) (call : Call) : Option Fault :=
  match (call.ask (World.empty.withCluster cluster)).1 with
  | .error (.fault fault) => some fault
  | _ => none

/-- The cluster after a call. -/
def after (cluster : Cluster) (call : Call) : Cluster :=
  (call.ask (World.empty.withCluster cluster)).2.cluster

/-- The cluster after calls. -/
def afterAll (cluster : Cluster) (calls : List Call) : Cluster :=
  calls.foldl after cluster

theorem afterAll_concat (cluster : Cluster) (calls : List Call) (call : Call) :
    cluster.afterAll (calls ++ [call]) = (cluster.afterAll calls).after call := by
  simp [afterAll]

end Cluster

/-- The call to the cluster that an entry shows, if it shows one. -/
def Entry.clusterCall? : Entry → Option Call
  | .call asked => if asked.service?.isSome then some asked else none
  | _ => none

namespace World

/-- The calls to the cluster between two worlds. -/
def callsSince (w w' : World) : List Call :=
  (entriesSince w w').filterMap Entry.clusterCall?

/-- The world after a call, whatever the answer. -/
def called (w : World) (call : Call) : World :=
  (w.noted [.call call]).withCluster (w.cluster.after call)

end World

/-- An action is a call: it shows in the journal, it changes the cluster as the call does, and its
outcome is a fault if and only if the call is answered with that fault. -/
structure Run.IsCall {α : Type} (call : Call) (action : Run α) : Prop where
  world : ∀ w, (action w).2 = w.called call
  refused : ∀ w fault, (action w).1 = .error (.fault fault) ↔ w.cluster.refusal? call = some fault

section IsCall

open Cluster

variable {α : Type} {action rest : Run α} {service : Service} {call : Call}

/-- What is only about the cluster, once a call was written down. -/
theorem isCall_of_apply (answer : Cluster → Except Halt α × Cluster)
    (happly : ∀ w, action w =
      ((answer w.cluster).1, (w.noted [.call call]).withCluster (answer w.cluster).2))
    (hask : ∀ w, call.ask w = ((action w).1.map fun _ => (), (action w).2)) :
    IsCall call action := by
  constructor
  · intro w
    rw [happly, World.called, after, hask, happly]
    rfl
  · intro w fault
    rw [refusal?, hask, happly, happly]
    change (answer w.cluster).1 = _ ↔ (match (answer w.cluster).1.map fun _ => () with
      | .error (.fault fault) => some fault
      | _ => none) = some fault
    cases (answer w.cluster).1 with
    | ok a => simp [Except.map]
    | error halt => cases halt <;> simp [Except.map]

theorem requested_eq (w : World) (call : Call) : w.requested call =
    (w.noted [.call call]).withCluster { w.cluster with requests := w.cluster.requests + 1 } := by
  simp [World.requested, World.withCluster, World.noted]

/-- A request that is answered from the objects of the cluster is a call. -/
theorem isCall_request (hrest : OfCluster rest)
    (hask : ∀ w, call.ask w = (((request service call >>= fun _ => rest) w).1.map fun _ => (),
      ((request service call >>= fun _ => rest) w).2)) :
    IsCall call (request service call >>= fun _ => rest) := by
  obtain ⟨answer, hanswer⟩ := hrest
  refine isCall_of_apply (fun cluster =>
    let asked := { cluster with requests := cluster.requests + 1 }
    (cluster.broken service cluster.requests).elim (answer asked) fun fault =>
      (.error (.fault fault), asked)) (fun w => ?_) hask
  rw [bind_apply, request_apply, requested_eq]
  cases w.cluster.broken service w.cluster.requests with
  | some fault => rfl
  | none => exact hanswer _

/-- An action without a result is asked again as it is. -/
theorem eq_map_unit (action : Run Unit) (w : World) :
    action w = ((action w).1.map fun _ => (), (action w).2) := by
  rcases action w with ⟨_ | _, _⟩ <;> rfl

variable {ns : Yaml}

theorem isCall_listPods (labels : String) :
    IsCall (.listPods ns labels) (listPods ns labels) := by
  refine isCall_request ?_ fun w => bind_pure_apply (listPods ns labels) _ w
  refine ofCluster_get (fun v => ?_) fun v v' h => by rw [h]
  refine (ofCluster_update _).bind fun _ => ?_
  split
  · exact ofCluster_pure _
  · exact ofCluster_throw _

theorem isCall_readPod (name : Option String) : IsCall (.readPod name ns) (readPod name ns) := by
  refine isCall_request ?_ fun w => bind_pure_apply (readPod name ns) _ w
  exact ofCluster_get (fun v => ofCluster_found _) fun v v' h => by rw [h]

theorem isCall_readNamespace (name : Yaml) :
    IsCall (.readNamespace name) (readNamespace name) := by
  refine isCall_request ?_ fun w => eq_map_unit (readNamespace name) w
  refine (ofCluster_lookupName name).bind fun _ => ?_
  refine ofCluster_get (fun v => ?_) fun v v' h => by rw [h]
  split
  · exact ofCluster_pure _
  · exact ofCluster_throw _

theorem isCall_createNamespace (name : Yaml) :
    IsCall (.createNamespace name) (createNamespace name) := by
  refine isCall_request ?_ fun w => eq_map_unit (createNamespace name) w
  refine (ofCluster_lookupName name).bind fun _ => ?_
  refine ofCluster_get (fun v => ?_) fun v v' h => by rw [h]
  split
  · exact ofCluster_throw _
  · exact ofCluster_update _

theorem isCall_readBinding (name : String) : IsCall (.readBinding name) (readBinding name) := by
  refine isCall_request ?_ fun w => eq_map_unit (readBinding name) w
  refine ofCluster_get (fun v => ?_) fun v v' h => by rw [h]
  split
  · exact ofCluster_pure _
  · exact ofCluster_throw _

theorem isCall_createBinding (body : Json) :
    IsCall (.createBinding body) (createBinding body) := by
  refine isCall_request ?_ fun w => eq_map_unit (createBinding body) w
  refine ofCluster_get (fun v => ?_) fun v v' h => by rw [h]
  split
  · exact ofCluster_throw _
  · exact ofCluster_update _

theorem isCall_readDeployment (name : String) :
    IsCall (.readDeployment name ns) (readDeployment name ns) := by
  refine isCall_request ?_ fun w => bind_pure_apply (readDeployment name ns) _ w
  refine (ofCluster_lookupName ns).bind fun _ => ?_
  exact ofCluster_get (fun v => ofCluster_found _) fun v v' h => by rw [h]

theorem isCall_readServiceAccount (name : String) :
    IsCall (.readServiceAccount name ns) (readServiceAccount name ns) := by
  refine isCall_request ?_ fun w => bind_pure_apply (readServiceAccount name ns) _ w
  refine (ofCluster_lookupName ns).bind fun _ => ?_
  exact ofCluster_get (fun v => ofCluster_found _) fun v v' h => by rw [h]

theorem isCall_patchServiceAccount (name : String) (body : Json) :
    IsCall (.patchServiceAccount name ns body) (patchServiceAccount name ns body) := by
  refine isCall_request ?_ fun w => eq_map_unit (patchServiceAccount name ns body) w
  exact (ofCluster_lookupName ns).bind fun _ => ofCluster_update _

theorem isCall_openStream (pod container : Option String) (command : Option (List String))
    (tty : Bool) : IsCall (.openStream pod ns container command tty)
      (openStream pod ns container command tty) := by
  refine isCall_request ?_ fun w =>
    bind_pure_apply (openStream pod ns container command tty) _ w
  refine ofCluster_get (fun v => ?_) fun v v' h => by rw [h]
  split
  · exact ofCluster_pure _
  · refine (ofCluster_update _).bind fun _ => ?_
    exact (ofCluster_unlessBroken _).bind fun _ => ofCluster_pure _

theorem isCall_openPortForward (pod : Option String) (ports : List Nat) :
    IsCall (.openPortForward pod ns ports)
      (request .openPortForward (.openPortForward pod ns ports)) := by
  refine isCall_of_apply (fun cluster =>
    ((cluster.broken .openPortForward cluster.requests).elim (.ok ()) fun fault =>
      .error (.fault fault), { cluster with requests := cluster.requests + 1 }))
    (fun w => ?_) fun w => eq_map_unit (Call.openPortForward pod ns ports).ask w
  rw [request_apply, requested_eq]
  cases w.cluster.broken .openPortForward w.cluster.requests <;> rfl

theorem isCall_readLog (pod container : Option String) (follow : Bool) (tail : Yaml) :
    IsCall (.readLog pod ns container follow tail) (readLog pod ns container follow tail) := by
  refine isCall_request ?_ fun w =>
    bind_pure_apply (readLog pod ns container follow tail) _ w
  exact ofCluster_get (fun v => ofCluster_pure _) fun v v' h => by rw [h]

end IsCall

/-! ## What no call changes -/

namespace Cluster

/-- It is the same cluster, seen in the same way: no object that can be looked for by itself is
gone, and what it refuses has not changed. -/
structure Continues (c c' : Cluster) : Prop where
  ns : c'.ns = c.ns
  context : c'.context = c.context
  authProvider : c'.authProvider = c.authProvider
  broken : c'.broken = c.broken
  namespaces : c.namespaces <+: c'.namespaces
  bindings : c.bindings <+: c'.bindings

namespace Continues

variable {c c' c'' : Cluster}

theorem refl (c : Cluster) : Continues c c :=
  ⟨rfl, rfl, rfl, rfl, List.prefix_rfl, List.prefix_rfl⟩

theorem trans (h : Continues c c') (h' : Continues c' c'') : Continues c c'' where
  ns := h'.ns.trans h.ns
  context := h'.context.trans h.context
  authProvider := h'.authProvider.trans h.authProvider
  broken := h'.broken.trans h.broken
  namespaces := h.namespaces.trans h'.namespaces
  bindings := h.bindings.trans h'.bindings

end Continues

end Cluster

namespace World

/-- Two worlds with the same cluster, before and after. -/
def Continues (w w' : World) : Prop :=
  w.cluster.Continues w'.cluster

instance : Std.Refl Continues :=
  ⟨fun w => .refl w.cluster⟩

instance : IsTrans World Continues :=
  ⟨fun _ _ _ => Cluster.Continues.trans⟩

end World

open World

theorem continues_request (service : Service) (call : Call) :
    Keeps Continues (Cluster.request service call) := by
  intro w
  rw [Cluster.request_apply]
  exact ⟨rfl, rfl, rfl, rfl, List.prefix_rfl, List.prefix_rfl⟩

theorem continues_found {α : Type} (a : Option α) : Keeps Continues (Cluster.found a) := by
  cases a with
  | some a => exact keeps_pure a
  | none => exact keeps_throw _

theorem continues_lookupName (name : Yaml) : Keeps Continues (Cluster.lookupName name) := by
  unfold Cluster.lookupName
  split
  · exact keeps_pure _
  · exact keeps_throw _

/-- No call takes anything away that exists by itself. -/
theorem continues_ask (call : Call) : Keeps Continues call.ask := by
  cases call with
  | listPods ns selector =>
      refine Keeps.bind ?_ fun _ => keeps_pure _
      refine (continues_request _ _).bind fun _ => keeps_get.bind fun v => ?_
      refine Keeps.bind (fun _ => ⟨rfl, rfl, rfl, rfl, List.prefix_rfl, List.prefix_rfl⟩)
        fun _ => ?_
      split
      · exact keeps_pure _
      · exact keeps_throw _
  | readPod name ns =>
      refine Keeps.bind ?_ fun _ => keeps_pure _
      exact (continues_request _ _).bind fun _ => keeps_get.bind fun v => continues_found _
  | readNamespace name =>
      refine (continues_request _ _).bind fun _ => ?_
      refine (continues_lookupName _).bind fun _ => keeps_get.bind fun v => ?_
      split
      · exact keeps_pure _
      · exact keeps_throw _
  | createNamespace name =>
      refine (continues_request _ _).bind fun _ => ?_
      refine (continues_lookupName _).bind fun _ => keeps_get.bind fun v => ?_
      split
      · exact keeps_throw _
      · exact fun w => ⟨rfl, rfl, rfl, rfl, List.prefix_append _ _, List.prefix_rfl⟩
  | readBinding name =>
      refine (continues_request _ _).bind fun _ => keeps_get.bind fun v => ?_
      split
      · exact keeps_pure _
      · exact keeps_throw _
  | createBinding body =>
      refine (continues_request _ _).bind fun _ => keeps_get.bind fun v => ?_
      split
      · exact keeps_throw _
      · exact fun w => ⟨rfl, rfl, rfl, rfl, List.prefix_rfl, List.prefix_append _ _⟩
  | readDeployment name ns =>
      refine Keeps.bind ?_ fun _ => keeps_pure _
      refine (continues_request _ _).bind fun _ => ?_
      exact (continues_lookupName _).bind fun _ => keeps_get.bind fun v => continues_found _
  | readServiceAccount name ns =>
      refine Keeps.bind ?_ fun _ => keeps_pure _
      refine (continues_request _ _).bind fun _ => ?_
      exact (continues_lookupName _).bind fun _ => keeps_get.bind fun v => continues_found _
  | patchServiceAccount name ns body =>
      refine (continues_request _ _).bind fun _ => (continues_lookupName _).bind fun _ => ?_
      exact fun w => ⟨rfl, rfl, rfl, rfl, List.prefix_rfl, List.prefix_rfl⟩
  | openStream pod ns container command tty =>
      refine Keeps.bind ?_ fun _ => keeps_pure _
      refine (continues_request _ _).bind fun _ => keeps_get.bind fun v => ?_
      split
      · exact keeps_pure _
      · refine Keeps.bind (fun _ => ⟨rfl, rfl, rfl, rfl, List.prefix_rfl, List.prefix_rfl⟩)
          fun _ => ?_
        exact (keeps_unlessBroken _).bind fun _ => keeps_pure _
  | openPortForward pod ns ports => exact continues_request _ _
  | readLog pod ns container follow tail =>
      refine Keeps.bind ?_ fun _ => keeps_pure _
      exact (continues_request _ _).bind fun _ => keeps_get.bind fun v => keeps_pure _
  | process command timeout =>
      refine Keeps.bind ?_ fun _ => keeps_pure _
      refine Keeps.bind (fun w => .refl w.cluster) fun _ => keeps_get.bind fun v => ?_
      split
      · exact keeps_pure _
      · exact keeps_pure _
      · split
        · exact keeps_pure _
        · exact keeps_throw _

/-- An action that is a call takes nothing away. -/
theorem Run.IsCall.continues {α : Type} {call : Call} {action : Run α} (h : IsCall call action) :
    Keeps Continues action := by
  intro w
  rw [h.world w]
  exact continues_ask call (World.empty.withCluster w.cluster)

end PodReach
