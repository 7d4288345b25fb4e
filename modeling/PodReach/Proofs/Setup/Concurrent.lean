import PodReach.Proofs.Setup.Turns

/-!
# Several clients prepare the same namespace at once

Whether an object exists is asked before it is created, and another client may create it in between.
On a server that answers only that an object does not exist or that it exists already, this does no
harm: in every order of turns all clients end well, and each object is created at most once, by a
client that says so. The invariant ties the objects to the audit log, and the lines that a client
has shown to what the log says of it.
-/

namespace PodReach

open Run World Cluster

namespace Setup

/-! ## What turns keep -/

variable {name : String} {ι : Type} [DecidableEq ι] {s₀ s : System ι} {schedule : List ι}

/-- Where a system stands after some turns: every client works where it can be and has used its
turns, the objects are those of the beginning and those of the audit log, and every client has shown
what it created. -/
structure Underway (name : String) (s₀ s : System ι) (schedule : List ι) : Prop where
  working : ∀ i, (s.clients i).Working name
  placed : ∀ i, (s.clients i).Placed name
  left : ∀ i, (s.clients i).stage.left ≤ 4 - schedule.count i
  passed : ∀ i, (s.clients i).stage.left ≤ 2 → s.objects.hasNamespace (.text name) = true
  objects : s.objects = s₀.objects.plus s.made
  namespaces : s.made.filterMap Made.ns? = [] ∨
    s₀.objects.hasNamespace (.text name) = false ∧ s.made.filterMap Made.ns? = [.text name]
  bindings : s.made.filterMap Made.binding? = [] ∨
    s₀.objects.hasBinding bindingName = false ∧
      ∃ user, s.made.filterMap Made.binding? = [(bindingName, bindingBody user)]
  grew : ∀ i, (s₀.clients i).world.Grew (s.clients i).world
  announced : ∀ i, List.Forall₂ Made.Announced (s.madeBy i)
    (linesSince (s₀.clients i).world (s.clients i).world)

namespace Underway

theorem start (objects : Objects) (clients : ι → Client) (h : ∀ i, (clients i).Working name) :
    Underway name (System.start objects clients) (System.start objects clients) [] where
  working i := (h i).served (.refl _)
  placed _ := trivial
  left _ := Nat.le_refl 4
  passed i hleft := by simp [System.start, Stage.left] at hleft
  objects := (Objects.plus_nil _).symm
  namespaces := Or.inl rfl
  bindings := Or.inl rfl
  grew _ := List.prefix_rfl
  announced i := by
    rw [linesSince, entriesSince_eq (List.append_nil _).symm]
    exact .nil

/-- Nothing is created twice: what the objects lack was not created so far, and was lacking before.
-/
theorem lacks_namespace (h : Underway name s₀ s schedule)
    (hlacks : s.objects.hasNamespace (.text name) = false) :
    s₀.objects.hasNamespace (.text name) = false ∧ s.made.filterMap Made.ns? = [] := by
  rw [h.objects] at hlacks
  have hbefore : s₀.objects.hasNamespace (.text name) = false := by
    by_contra has
    rw [Objects.hasNamespace_plus (by simpa using has)] at hlacks
    cases hlacks
  refine ⟨hbefore, h.namespaces.resolve_right fun hmade => ?_⟩
  simp [Objects.hasNamespace, Objects.plus, hmade.2, Yaml.same] at hlacks

theorem lacks_binding (h : Underway name s₀ s schedule)
    (hlacks : s.objects.hasBinding bindingName = false) :
    s₀.objects.hasBinding bindingName = false ∧ s.made.filterMap Made.binding? = [] := by
  rw [h.objects] at hlacks
  have hbefore : s₀.objects.hasBinding bindingName = false := by
    by_contra has
    rw [Objects.hasBinding_plus (by simpa using has)] at hlacks
    cases hlacks
  refine ⟨hbefore, h.bindings.resolve_right ?_⟩
  rintro ⟨-, user, hmade⟩
  simp [Objects.hasBinding, Objects.plus, hmade, List.lookup_append] at hlacks

/-- Another turn keeps it so. -/
theorem step (h : Underway name s₀ s schedule) (i : ι) :
    Underway name s₀ (s.step i) (schedule ++ [i]) := by
  obtain ⟨stage, made, w, lines, hturn, hmoves, hserved, hannounced⟩ :=
    turn_moves (o := s.objects) (h.working i) (h.placed i)
  have hclient : (s.step i).clients i = { s.clients i with stage := stage, world := w } := by
    rw [System.step_client, hturn]
  have hobjects : (s.step i).objects = s.objects.plus made := congrArg Prod.snd hturn
  have hadded : s.objects.added ((s.clients i).turn s.objects).2 = made := by
    rw [hturn]
    exact s.objects.added_plus hmoves.length_made
  have hmade : (s.step i).made = s.made ++ made := by rw [System.made_step, hadded]
  obtain ⟨hgrew, hlines⟩ := hserved.linesSince_eq (h.grew i)
  constructor
  case working =>
    refine s.step_clients (P := fun _ c => c.Working name) i ?_ fun j _ => h.working j
    rw [hclient]
    exact (h.working i).served hserved
  case placed =>
    refine s.step_clients (P := fun _ c => c.Placed name) i ?_ fun j _ => h.placed j
    rw [hclient]
    exact hmoves.placed (h.placed i) hserved.context hserved.markup
  case left =>
    refine s.step_clients (P := fun j c => c.stage.left ≤ 4 - (schedule ++ [i]).count j) i ?_ ?_
    · have hfewer := ((s.clients i).turn_rest s.objects).1
      have hleft := h.left i
      rw [System.step_client, List.count_append, List.count_singleton_self]
      omega
    · intro j hj
      rw [List.count_append, List.count_singleton, if_neg (by simpa using Ne.symm hj)]
      exact h.left j
  case passed =>
    rw [hobjects]
    refine s.step_clients (P := fun _ c => c.stage.left ≤ 2 →
      (s.objects.plus made).hasNamespace (.text name) = true) i ?_ ?_
    · rw [hclient]
      exact hmoves.passed (h.passed i)
    · exact fun j _ hleft => Objects.hasNamespace_plus (h.passed j hleft)
  case objects => rw [hobjects, hmade, h.objects, Objects.plus_plus]
  case namespaces =>
    rw [hmade, List.filterMap_append]
    rcases hmoves.namespaces_made with hnone | ⟨hlacks, hone⟩
    · rw [hnone, List.append_nil]
      exact h.namespaces
    · obtain ⟨hbefore, hnone⟩ := h.lacks_namespace hlacks
      exact Or.inr ⟨hbefore, by rw [hnone, hone, List.nil_append]⟩
  case bindings =>
    rw [hmade, List.filterMap_append]
    rcases hmoves.bindings_made with hnone | ⟨hlacks, user, hone⟩
    · rw [hnone, List.append_nil]
      exact h.bindings
    · obtain ⟨hbefore, hnone⟩ := h.lacks_binding hlacks
      exact Or.inr ⟨hbefore, user, by rw [hnone, hone, List.nil_append]⟩
  case grew =>
    refine s.step_clients (P := fun j c => (s₀.clients j).world.Grew c.world) i ?_ ?_
    · rw [hclient]
      exact hgrew
    · exact fun j _ => h.grew j
  case announced =>
    refine s.step_clients (P := fun j c => List.Forall₂ Made.Announced ((s.step i).madeBy j)
      (linesSince (s₀.clients j).world c.world)) i ?_ ?_
    · rw [System.madeBy_step, hadded, hclient, hlines, if_pos rfl]
      exact List.rel_append (h.announced i) hannounced
    · intro j hj
      rw [System.madeBy_step, if_neg (Ne.symm hj), List.append_nil]
      exact h.announced j

/-- It is so after any turns. -/
theorem run (h : Underway name s₀ s schedule) (later : List ι) :
    Underway name s₀ (s.run later) (schedule ++ later) := by
  induction later generalizing s schedule with
  | nil => rwa [List.append_nil]
  | cons i later ih =>
      have hstep := ih (h.step i)
      rwa [List.append_assoc] at hstep

end Underway

/-! ## What comes of it -/

/-- What working clients make of a system after some turns. -/
structure Prepared (name : String) (s₀ s : System ι) (schedule : List ι) : Prop where
  /-- No client ends in an error. -/
  faultless : ∀ i outcome, (s.clients i).stage = .ended outcome → outcome = .ok ()
  /-- Every client ends within four turns. -/
  ends : ∀ i, 4 ≤ schedule.count i → (s.clients i).stage = .ended (.ok ())
  /-- Nothing is changed but by adding what was created. -/
  objects : s.objects = s₀.objects.plus s.made
  /-- A namespace that exists is not created. -/
  namespace_kept : s₀.objects.hasNamespace (.text name) = true → s.made.filterMap Made.ns? = []
  /-- One that does not exist is created at most once, and before any client goes on to its binding.
  -/
  namespace_created : s₀.objects.hasNamespace (.text name) = false →
    (s.made.filterMap Made.ns? = [] ∧ ∀ i, schedule.count i < 2) ∨
      s.made.filterMap Made.ns? = [.text name]
  /-- A role binding that exists is not created. -/
  binding_kept : s₀.objects.hasBinding bindingName = true → s.made.filterMap Made.binding? = []
  /-- One that does not exist is created at most once. -/
  binding_created : s.made.filterMap Made.binding? = [] ∨
    ∃ user, s.made.filterMap Made.binding? = [(bindingName, bindingBody user)]
  /-- Every client announces what it created, in order, and nothing else. -/
  announced : ∀ i, List.Forall₂ Made.Announced (s.madeBy i)
    (linesSince (s₀.clients i).world (s.clients i).world)

theorem Underway.prepared (h : Underway name s₀ s schedule) : Prepared name s₀ s schedule := by
  have hfaultless (i : ι) (outcome : Except Halt Unit)
      (hended : (s.clients i).stage = .ended outcome) : outcome = .ok () := by
    have hplaced := h.placed i
    unfold Client.Placed at hplaced
    rw [hended] at hplaced
    exact hplaced
  constructor
  case faultless => exact hfaultless
  case ends =>
    intro i hturns
    have hleft := h.left i
    rw [Nat.sub_eq_zero_of_le hturns] at hleft
    cases hstage : (s.clients i).stage with
    | ended outcome => rw [hfaultless i outcome hstage]
    | _ => simp [hstage, Stage.left] at hleft
  case objects => exact h.objects
  case namespace_kept =>
    intro has
    refine h.namespaces.resolve_right fun hmade => ?_
    rw [has] at hmade
    cases hmade.1
  case namespace_created =>
    intro hlacks
    refine h.namespaces.imp (fun hnone => ⟨hnone, fun i => ?_⟩) And.right
    by_contra hturns
    have hleft := h.left i
    have has := h.passed i (by omega)
    rw [h.objects] at has
    rw [Objects.hasNamespace, Objects.plus, hnone, List.append_nil] at has
    rw [Objects.hasNamespace, has] at hlacks
    cases hlacks
  case binding_kept =>
    intro has
    refine h.bindings.resolve_right fun hmade => ?_
    rw [has] at hmade
    cases hmade.1
  case binding_created => exact h.bindings.imp_right And.right
  case announced => exact h.announced

/-- Preparing a namespace is safe for any number of clients, on any objects and in any order of
turns. A client that is alone makes the preparation that it would make in one go. If all clients
work on the same namespace, they prepare it. And whenever a call of a client is refused in any other
way than that an object does not exist or exists already, the client ends with that refusal and
creates nothing any more, whatever the others do. -/
theorem concurrent_preparation (objects : Objects) (clients : ι → Client) :
    let s := System.start objects clients
    (∀ i, let alone := s.run (List.replicate 4 i)
      ∃ outcome, (alone.clients i).stage = .ended outcome ∧
        (ensureNamespace (clients i).ns >>= fun _ => ensureBinding (clients i).lookup)
            ((clients i).world.meeting objects) =
          (outcome, (alone.clients i).world.meeting alone.objects)) ∧
    (∀ name, (∀ i, (clients i).Working name) →
      ∀ schedule, Prepared name s (s.run schedule) schedule) ∧
    ∀ schedule i call expected fault later,
      let before := s.run schedule
      let after := before.run (i :: later)
      (before.clients i).stage.request? (before.clients i).ns (before.clients i).world.cluster.ns =
          some (call, expected) →
        ((before.clients i).world.meeting before.objects).cluster.refusal? call = some fault →
        (∀ reason, fault ≠ .api expected reason) →
        (after.clients i).stage = .ended (.error (.fault fault)) ∧
          after.madeBy i = before.madeBy i := by
  intro s
  refine ⟨fun i => ?_, fun name hworking schedule => ?_, ?_⟩
  · exact System.run_replicate 4 s i (Nat.le_refl 4)
  · exact ((Underway.start objects clients hworking).run schedule).prepared
  · intro schedule i call expected fault later before after hrequest hrefused hother
    exact System.run_of_refused before i hrequest hrefused hother later

/-- Two clients find that nothing exists. One of them creates the namespace and the other one the
role binding, and both end well. A third client, who may not create namespaces, is told so. -/
theorem concurrent_preparation_interleaved :
    let client (user : String) (broken : Service → Nat → Option Fault) : Client :=
      ⟨.text "team", cloudAccount, .readNamespace, { World.empty with
        process := .finished 0 user ""
        cluster := { Cluster.empty with authProvider := .text "gcp", broken := broken } }⟩
    let answering : Bool → Client := fun first =>
      client (if first then "one@example.com" else "two@example.com") fun _ _ => none
    let s := System.start ⟨[], []⟩ answering
    let schedule := [true, false, true, false, false, true, false, true]
    let forbidding : Unit → Client := fun _ => client "three@example.com" fun service _ =>
      if service = .createNamespace then some (.api 403 (some "Forbidden")) else none
    let before := (System.start ⟨[], []⟩ forbidding).run [()]
    (∀ i, (answering i).Working "team") ∧ Prepared "team" s (s.run schedule) schedule ∧
      (s.run schedule).audit.map Prod.fst = [true, false] ∧
      ((before.run [()]).clients ()).stage =
        .ended (.error (.fault (.api 403 (some "Forbidden")))) := by
  intro client answering s schedule forbidding before
  have hworking (i : Bool) : (answering i).Working "team" := by
    refine ⟨rfl, fun _ _ _ => rfl, rfl, fun _ _ => rfl, fun _ _ => ?_⟩
    cases i <;> exact findsAccount_of_finished rfl (by decide +kernel) fun _ _ => rfl
  have hprepared := (concurrent_preparation ⟨[], []⟩ answering).2.1 "team" hworking schedule
  have hforbidden := (concurrent_preparation ⟨[], []⟩ forbidding).2.2 [()] ()
    (.createNamespace (.text "team")) 409 (.api 403 (some "Forbidden")) [] rfl rfl nofun
  exact ⟨hworking, hprepared, by decide +kernel, hforbidden.1⟩

end Setup

end PodReach
