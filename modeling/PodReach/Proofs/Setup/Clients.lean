import Mathlib.Logic.Function.Basic
import PodReach.Proofs.Setup.Stages

/-!
# Clients that share a cluster

Any number of clients make sure of a namespace and then of the role binding of their account. Each
has a world of its own, and all of them see the same namespaces and role bindings. They take turns
in any order, and a turn is one call to the server together with what the client does until its next
one. The server keeps an audit log of who created what.
-/

namespace PodReach

open Run World Cluster

namespace Setup

/-! ## What is shared -/

/-- The objects of a cluster that its clients share. -/
structure Objects where
  namespaces : List Yaml
  bindings : List (String × Json)

/-- The line that shows a success. -/
def successLine (message : String) : String :=
  s!"[green]✅ 主人，{message}[/green]"

/-- An object that was created. -/
inductive Made
  | ns (name : Yaml)
  | binding (name : String) (body : Json)

namespace Made

/-- The name of a namespace. -/
def ns? : Made → Option Yaml
  | ns name => some name
  | binding _ _ => none

/-- A role binding under its name. -/
def binding? : Made → Option (String × Json)
  | ns _ => none
  | binding name body => some (name, body)

/-- The line that tells that an object was created. -/
inductive Announced : Made → String → Prop
  | ns (name : Yaml) : Announced (.ns name) (successLine s!"已创建命名空间: {name.shown}")
  | binding (user : String) : Announced (.binding bindingName (bindingBody user))
      (successLine s!"已为 {user} 创建 ClusterRoleBinding: {bindingName}")

end Made

namespace Objects

variable {o : Objects} {made : List Made} {name : Yaml} {binding : String}

/-- Whether a namespace exists by this name. -/
def hasNamespace (o : Objects) (name : Yaml) : Bool :=
  o.namespaces.any (Yaml.same name)

/-- Whether a role binding exists by this name. -/
def hasBinding (o : Objects) (binding : String) : Bool :=
  (o.bindings.lookup binding).isSome

/-- The objects with others added to them. -/
def plus (o : Objects) (made : List Made) : Objects :=
  ⟨o.namespaces ++ made.filterMap Made.ns?, o.bindings ++ made.filterMap Made.binding?⟩

/-- What was added to the objects. -/
def added (before after : Objects) : List Made :=
  (after.namespaces.drop before.namespaces.length).map .ns ++
    (after.bindings.drop before.bindings.length).map fun (name, body) => .binding name body

theorem plus_nil (o : Objects) : o.plus [] = o := by
  simp [plus]

theorem plus_plus (o : Objects) (made later : List Made) :
    (o.plus made).plus later = o.plus (made ++ later) := by
  simp [plus]

theorem added_self (o : Objects) : o.added o = [] := by
  simp [added]

/-- Of one call the server knows what it added. -/
theorem added_plus (o : Objects) {made : List Made} (hone : made.length ≤ 1) :
    o.added (o.plus made) = made := by
  match made, hone with
  | [], _ => rw [plus_nil, added_self]
  | [.ns name], _ => simp [added, plus, Made.ns?, Made.binding?]
  | [.binding name body], _ => simp [added, plus, Made.ns?, Made.binding?]

theorem hasNamespace_plus (h : o.hasNamespace name = true) :
    (o.plus made).hasNamespace name = true := by
  rw [hasNamespace, plus, List.any_append, Bool.or_eq_true]
  exact Or.inl h

theorem hasBinding_plus (h : o.hasBinding binding = true) :
    (o.plus made).hasBinding binding = true := by
  rw [hasBinding, Option.isSome_iff_exists] at h
  obtain ⟨body, hbody⟩ := h
  rw [hasBinding, plus, List.lookup_append, hbody]
  rfl

end Objects

end Setup

namespace World

/-- The shared objects as a world has them. -/
def objects (w : World) : Setup.Objects :=
  ⟨w.cluster.namespaces, w.cluster.bindings⟩

/-- A world in which the shared objects have become these. -/
def meeting (w : World) (o : Setup.Objects) : World :=
  w.withCluster { w.cluster with namespaces := o.namespaces, bindings := o.bindings }

@[simp]
theorem objects_meeting (w : World) (o : Setup.Objects) : (w.meeting o).objects = o := rfl

end World

namespace Setup

/-! ## Clients -/

/-- A client: the namespace that it is given, how it looks up its account, and how far it is. -/
structure Client where
  ns : Yaml
  lookup : Run String
  stage : Stage
  world : World

namespace Client

/-- One turn of a client, given the objects at the time: what becomes of the client and of them. -/
def turn (c : Client) (o : Objects) : Client × Objects :=
  match c.stage.next c.ns c.lookup (c.world.meeting o) with
  | (.ok stage, w) => ({ c with stage := stage, world := w }, w.objects)
  | (.error halt, w) => ({ c with stage := .ended (.error halt), world := w }, w.objects)

variable {c : Client} {o : Objects} {stage : Stage} {w : World}

theorem turn_of_ok (h : c.stage.next c.ns c.lookup (c.world.meeting o) = (.ok stage, w)) :
    c.turn o = ({ c with stage := stage, world := w }, w.objects) := by
  rw [turn, h]

theorem turn_of_error {halt : Halt}
    (h : c.stage.next c.ns c.lookup (c.world.meeting o) = (.error halt, w)) :
    c.turn o = ({ c with stage := .ended (.error halt), world := w }, w.objects) := by
  rw [turn, h]

/-- A client that has ended does nothing. -/
theorem turn_of_ended {outcome : Except Halt Unit} (h : c.stage = .ended outcome) :
    c.turn o = ({ c with world := c.world.meeting o }, o) := by
  rw [turn, h]
  cases c
  cases h
  rfl

/-- A turn takes one of the calls that are left, and what is left to do comes out the same. -/
theorem turn_rest (c : Client) (o : Objects) :
    (c.turn o).1.stage.left ≤ c.stage.left - 1 ∧
      (c.turn o).1.stage.rest c.ns c.lookup ((c.turn o).1.world.meeting (c.turn o).2) =
        c.stage.rest c.ns c.lookup (c.world.meeting o) := by
  have hrest := congrFun (Stage.rest_eq_next_bind c.ns c.lookup c.stage) (c.world.meeting o)
  rcases hnext : c.stage.next c.ns c.lookup (c.world.meeting o) with ⟨halt | stage, w⟩
  · rw [turn_of_error hnext, hrest, bind_of_error hnext]
    exact ⟨Nat.zero_le _, rfl⟩
  · rw [turn_of_ok hnext, hrest, bind_of_ok hnext]
    exact ⟨Stage.left_next hnext, rfl⟩

theorem turn_ns (c : Client) (o : Objects) :
    (c.turn o).1.ns = c.ns ∧ (c.turn o).1.lookup = c.lookup := by
  rcases hnext : c.stage.next c.ns c.lookup (c.world.meeting o) with ⟨halt | stage, w⟩
  · rw [turn_of_error hnext]
    exact ⟨rfl, rfl⟩
  · rw [turn_of_ok hnext]
    exact ⟨rfl, rfl⟩

end Client

/-! ## Systems -/

/-- Clients, the objects that they share, and who created which of them. -/
structure System (ι : Type) where
  objects : Objects
  clients : ι → Client
  audit : List (ι × Made)

namespace System

variable {ι : Type}

/-- The clients are about to begin. -/
def start (objects : Objects) (clients : ι → Client) : System ι :=
  ⟨objects, fun i => { clients i with stage := .readNamespace }, []⟩

/-- All that was created, oldest first. -/
def made (s : System ι) : List Made :=
  s.audit.map Prod.snd

variable [DecidableEq ι] {s : System ι} {i : ι}

/-- What a client created. -/
def madeBy (s : System ι) (i : ι) : List Made :=
  s.audit.filterMap fun (j, made) => if j = i then some made else none

/-- One of the clients takes its turn. -/
def step (s : System ι) (i : ι) : System ι :=
  let (client, objects) := (s.clients i).turn s.objects
  ⟨objects, Function.update s.clients i client,
    s.audit ++ (s.objects.added objects).map fun made => (i, made)⟩

/-- The clients take their turns in some order. -/
def run (s : System ι) (schedule : List ι) : System ι :=
  schedule.foldl step s

theorem step_client (s : System ι) (i : ι) :
    (s.step i).clients i = ((s.clients i).turn s.objects).1 :=
  Function.update_self ..

theorem step_other (s : System ι) {j : ι} (h : j ≠ i) : (s.step i).clients j = s.clients j :=
  Function.update_of_ne h ..

/-- What holds of the client after its turn and of the others before it holds of all after it. -/
theorem step_clients {P : ι → Client → Prop} (s : System ι) (i : ι)
    (hturn : P i ((s.step i).clients i)) (hother : ∀ j, j ≠ i → P j (s.clients j)) (j : ι) :
    P j ((s.step i).clients j) := by
  by_cases hj : j = i
  · rw [hj]
    exact hturn
  · rw [s.step_other hj]
    exact hother j hj

theorem made_step (s : System ι) (i : ι) : (s.step i).made = s.made ++
    s.objects.added ((s.clients i).turn s.objects).2 := by
  simp [made, step, Function.comp_def]

/-- Nothing that a client does is put down to another one. -/
theorem madeBy_step (s : System ι) (i j : ι) : (s.step i).madeBy j = s.madeBy j ++
    if i = j then s.objects.added ((s.clients i).turn s.objects).2 else [] := by
  rw [madeBy, step, List.filterMap_append]
  congr 1
  rw [List.filterMap_map]
  change List.filterMap (fun made => if i = j then some made else none) _ = _
  split
  next h => rw [List.filterMap_some]
  next h => exact List.filterMap_eq_nil_iff.mpr fun _ _ => rfl

/-- A client that is alone on the cluster makes one preparation after all. -/
theorem run_replicate (n : Nat) (s : System ι) (i : ι) (hleft : (s.clients i).stage.left ≤ n) :
    ∃ outcome, ((s.run (List.replicate n i)).clients i).stage = .ended outcome ∧
      (s.clients i).stage.rest (s.clients i).ns (s.clients i).lookup
          ((s.clients i).world.meeting s.objects) =
        (outcome, ((s.run (List.replicate n i)).clients i).world.meeting
          (s.run (List.replicate n i)).objects) := by
  induction n generalizing s with
  | zero =>
      cases hstage : (s.clients i).stage with
      | ended outcome => exact ⟨outcome, hstage, ofExcept_apply outcome _⟩
      | _ => simp [hstage, Stage.left] at hleft
  | succ n ih =>
      obtain ⟨hfewer, hsame⟩ := (s.clients i).turn_rest s.objects
      have hturn := step_client s i
      obtain ⟨outcome, hended, hrest⟩ := ih (s.step i) (by rw [hturn]; omega)
      rw [hturn, ((s.clients i).turn_ns s.objects).1, ((s.clients i).turn_ns s.objects).2] at hrest
      refine ⟨outcome, hended, ?_⟩
      rw [← hsame]
      exact hrest

/-- A client that has ended stays as it is, and nothing more is created by it. -/
theorem run_of_ended {outcome : Except Halt Unit} (schedule : List ι) (s : System ι)
    (h : (s.clients i).stage = .ended outcome) :
    ((s.run schedule).clients i).stage = .ended outcome ∧
      (s.run schedule).madeBy i = s.madeBy i := by
  induction schedule generalizing s with
  | nil => exact ⟨h, rfl⟩
  | cons j schedule ih =>
      have hstep : ((s.step j).clients i).stage = .ended outcome ∧
          (s.step j).madeBy i = s.madeBy i := by
        rw [madeBy_step]
        by_cases hj : j = i
        · subst hj
          rw [step_client, Client.turn_of_ended h, Objects.added_self]
          exact ⟨h, by simp⟩
        · rw [step_other s (Ne.symm hj), if_neg hj, List.append_nil]
          exact ⟨h, rfl⟩
      obtain ⟨hended, hmade⟩ := ih (s.step j) hstep.1
      exact ⟨hended, hmade.trans hstep.2⟩

/-- A client whose call is refused for another reason than the expected one ends with that refusal
and creates nothing any more. -/
theorem run_of_refused {call : Call} {expected : Int} {fault : Fault} (s : System ι) (i : ι)
    (hrequest : (s.clients i).stage.request? (s.clients i).ns (s.clients i).world.cluster.ns =
      some (call, expected))
    (hrefused : ((s.clients i).world.meeting s.objects).cluster.refusal? call = some fault)
    (hother : ∀ reason, fault ≠ .api expected reason) (later : List ι) :
    ((s.run (i :: later)).clients i).stage = .ended (.error (.fault fault)) ∧
      (s.run (i :: later)).madeBy i = s.madeBy i := by
  have hnext : (s.clients i).stage.next (s.clients i).ns (s.clients i).lookup
      ((s.clients i).world.meeting s.objects) = _ := Stage.next_of_refused hrequest hrefused hother
  have hturn := Client.turn_of_error hnext
  have hended : ((s.step i).clients i).stage = .ended (.error (.fault fault)) := by
    rw [step_client, hturn]
  obtain ⟨hstage, hmade⟩ := run_of_ended later (s.step i) hended
  refine ⟨hstage, hmade.trans ?_⟩
  rw [madeBy_step, hturn, if_pos rfl]
  exact (congrArg (s.madeBy i ++ ·) (Objects.added_self s.objects)).trans (List.append_nil _)

end System

end Setup

end PodReach
