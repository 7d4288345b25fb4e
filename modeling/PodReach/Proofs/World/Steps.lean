import PodReach.World.Api

/-!
# Taking a run apart

What each elementary action does to the world it starts from, and how a run is put together from
them. What is known about longer operations is derived from these equations.
-/

namespace PodReach

namespace Run

variable {α β : Type} {action : Run α} {next : α → Run β} {w w' : World}

/-- One action after another, as a function on worlds. -/
theorem bind_apply (action : Run α) (next : α → Run β) (w : World) :
    (action >>= next) w =
      match action w with
      | (.ok a, w') => next a w'
      | (.error halt, w') => (.error halt, w') := by
  have hbind : (action >>= next) w = ExceptT.bindCont next (action w).1 (action w).2 := rfl
  rw [hbind]
  rcases action w with ⟨_ | _, _⟩ <;> rfl

/-- A run goes on with the result of its first action. -/
theorem bind_of_ok {a : α} (h : action w = (.ok a, w')) : (action >>= next) w = next a w' := by
  rw [bind_apply, h]

/-- A run ends where its first action ends it. -/
theorem bind_of_error {halt : Halt} (h : action w = (.error halt, w')) :
    (action >>= next) w = (.error halt, w') := by
  rw [bind_apply, h]

/-- A run that has a result got past its first action. -/
theorem bind_eq_ok {b : β} {w'' : World} (h : (action >>= next) w = (.ok b, w'')) :
    ∃ a w', action w = (.ok a, w') ∧ next a w' = (.ok b, w'') := by
  rcases hfirst : action w with ⟨halt | a, w'⟩
  · rw [bind_of_error hfirst] at h
    cases h
  · rw [bind_of_ok hfirst] at h
    exact ⟨a, w', rfl, h⟩

/-- A result that is only put into another form. -/
theorem bind_pure_apply (action : Run α) (form : α → β) (w : World) :
    (action >>= fun a => pure (form a)) w = ((action w).1.map form, (action w).2) := by
  rw [bind_apply]
  rcases action w with ⟨_ | _, _⟩ <;> rfl

/-- An outcome that is already known changes nothing. -/
theorem ofExcept_apply (outcome : Except Halt α) (w : World) :
    (ofExcept outcome : Run α) w = (outcome, w) := by
  cases outcome <;> rfl

/-- An outcome that turned out to be a result was one. -/
theorem ofExcept_eq_ok {outcome : Except Halt α} {a : α}
    (h : (ofExcept outcome : Run α) w = (.ok a, w')) : outcome = .ok a ∧ w' = w := by
  cases outcome with
  | error halt => cases h
  | ok b =>
      cases h
      exact ⟨rfl, rfl⟩

/-- What is done about a halt is done in the world that it left. -/
theorem tryCatch_apply (action : Run α) (handler : Halt → Run α) (w : World) :
    (tryCatch action handler : Run α) w =
      match action w with
      | (.ok a, w') => (.ok a, w')
      | (.error halt, w') => handler halt w' := by
  simp only [tryCatch, tryCatchThe, MonadExceptOf.tryCatch, ExceptT.tryCatch, ExceptT.mk, bind,
    StateT.bind]
  rcases action w with ⟨_ | _, _⟩ <;> rfl

theorem unlessBroken_apply (fault : Option Fault) (w : World) :
    unlessBroken fault w =
      (match fault with | some f => .error (.fault f) | none => .ok (), w) := by
  cases fault <;> rfl

theorem get_apply (w : World) : (get : Run World) w = (.ok w, w) := rfl

theorem need_some (a : α) (w : World) : need (some a) w = (.ok a, w) := rfl

theorem need_none (w : World) : need (none : Option α) w = (.error (.mistake .noSuchPart), w) :=
  rfl

/-- A part that had to be there and was. -/
theorem need_eq_ok {a : α} {part : Option α} (h : need part w = (.ok a, w')) :
    part = some a ∧ w' = w := by
  cases part with
  | none => cases h
  | some b =>
      cases h
      exact ⟨rfl, rfl⟩

end Run

namespace World

/-- The world after a pause. -/
def paused (w : World) (seconds : Double) : World :=
  { w with journal := w.journal.push (.slept seconds), clock := w.clock.add seconds }

/-- The world after a request, whatever the answer. -/
def requested (w : World) (call : Call) : World :=
  { w with
    journal := w.journal.push (.call call)
    cluster := { w.cluster with requests := w.cluster.requests + 1 } }

/-- The world after the cluster has listed its pods. -/
def listed (w : World) (ns : Yaml) (labels : String) : World :=
  let asked := w.requested (.listPods ns labels)
  { asked with cluster := { asked.cluster with listed := asked.cluster.listed + 1 } }

end World

theorem Clock.read_apply (w : World) : Clock.read w = (.ok w.clock, w) := rfl

theorem Clock.pause_apply (seconds : Double) (w : World) :
    Clock.pause seconds w = (.ok (), w.paused seconds) := rfl

namespace Cluster

open Run

/-- A request is written down before it is answered. -/
theorem request_apply (service : Service) (call : Call) (w : World) :
    request service call w =
      (match w.cluster.broken service w.cluster.requests with
        | some fault => .error (.fault fault)
        | none => .ok (), w.requested call) :=
  unlessBroken_apply _ _

/-- A request that was not refused. -/
theorem request_of_working {service : Service} {call : Call} {w : World}
    (h : w.cluster.broken service w.cluster.requests = none) :
    request service call w = (.ok (), w.requested call) := by
  rw [request_apply, h]

/-- A request that was refused. -/
theorem request_of_broken {service : Service} {call : Call} {w : World} {fault : Fault}
    (h : w.cluster.broken service w.cluster.requests = some fault) :
    request service call w = (.error (.fault fault), w.requested call) := by
  rw [request_apply, h]

/-- The answer that a cluster gives when it is asked for pods after `earlier` answered questions
and nothing else: the pods it then has in the namespace and with the labels, or a fault. -/
def listAnswer (cluster : Cluster) (ns : Yaml) (labels : String) (earlier : Nat) :
    Except Fault (List Pod) :=
  match cluster.broken .listPods (cluster.requests + earlier) with
  | some fault => .error fault
  | none => (cluster.listAnswers (cluster.listed + earlier)).map (·.filter (selects ns labels))

/-- Listing pods that is not refused takes one answer. -/
theorem listPods_of_working {ns : Yaml} {labels : String} {w : World}
    (h : w.cluster.broken .listPods w.cluster.requests = none) :
    listPods ns labels w =
      (match w.cluster.listAnswers w.cluster.listed with
        | .ok pods => .ok (pods.filter (selects ns labels))
        | .error fault => .error (.fault fault), w.listed ns labels) := by
  unfold listPods
  rw [bind_of_ok (request_of_working h)]
  change (match w.cluster.listAnswers w.cluster.listed with
    | .ok pods => pure (pods.filter (selects ns labels))
    | .error fault => throw (.fault fault) : Run (List Pod)) (w.listed ns labels) = _
  cases w.cluster.listAnswers w.cluster.listed <;> rfl

/-- Listing pods returns the next answer. -/
theorem listPods_of_ok {ns : Yaml} {labels : String} {w : World} {pods : List Pod}
    (h : w.cluster.listAnswer ns labels 0 = .ok pods) :
    listPods ns labels w = (.ok pods, w.listed ns labels) := by
  unfold listAnswer at h
  cases hbroken : w.cluster.broken .listPods w.cluster.requests with
  | some fault =>
      rw [Nat.add_zero, hbroken] at h
      cases h
  | none =>
      rw [Nat.add_zero, hbroken, Nat.add_zero] at h
      rw [listPods_of_working hbroken]
      cases hanswer : w.cluster.listAnswers w.cluster.listed with
      | error fault =>
          rw [hanswer] at h
          cases h
      | ok all =>
          rw [hanswer] at h
          cases h
          rfl

/-- Listing pods fails with the next answer if that is a fault. Only the request shows. -/
theorem listPods_of_error {ns : Yaml} {labels : String} {w : World} {fault : Fault}
    (h : w.cluster.listAnswer ns labels 0 = .error fault) :
    ∃ w', listPods ns labels w = (.error (.fault fault), w') ∧
      w'.journal = w.journal.push (.call (.listPods ns labels)) := by
  unfold listAnswer at h
  cases hbroken : w.cluster.broken .listPods w.cluster.requests with
  | some refusal =>
      rw [Nat.add_zero, hbroken] at h
      cases h
      exact ⟨_, bind_of_error (request_of_broken hbroken), rfl⟩
  | none =>
      rw [Nat.add_zero, hbroken, Nat.add_zero] at h
      refine ⟨w.listed ns labels, ?_, rfl⟩
      rw [listPods_of_working hbroken]
      cases hanswer : w.cluster.listAnswers w.cluster.listed with
      | error refusal =>
          rw [hanswer] at h
          cases h
          rfl
      | ok all =>
          rw [hanswer] at h
          cases h

/-- Pods that were listed are pods of the namespace with the labels. -/
theorem listPods_eq_ok {ns : Yaml} {labels : String} {w w' : World} {pods : List Pod}
    (h : listPods ns labels w = (.ok pods, w')) :
    ∃ all : List Pod, pods = all.filter (selects ns labels) := by
  unfold listPods at h
  obtain ⟨_, v, _, h⟩ := bind_eq_ok h
  rw [bind_of_ok (get_apply v)] at h
  obtain ⟨_, v', _, h⟩ := bind_eq_ok h
  cases hanswer : v.cluster.listAnswers v.cluster.listed with
  | error fault =>
      rw [hanswer] at h
      cases h
  | ok all =>
      rw [hanswer] at h
      cases h
      exact ⟨all, rfl⟩

/-- Reading a pod that succeeds is one request, which changes nothing else. -/
theorem readPod_eq_ok {name : Option String} {ns : Yaml} {w w' : World} {pod : Pod}
    (h : readPod name ns w = (.ok pod, w')) :
    w' = w.requested (.readPod name ns) ∧
      w.cluster.pods.find? (fun pod => pod.name? == name && liesIn ns pod) = some pod := by
  unfold readPod at h
  obtain ⟨_, asked, hrequest, hfound⟩ := bind_eq_ok h
  obtain rfl : w.requested (.readPod name ns) = asked := by
    rw [request_apply] at hrequest
    exact (Prod.mk.inj hrequest).2
  change found (w.cluster.pods.find? fun pod => pod.name? == name && liesIn ns pod)
    (w.requested (.readPod name ns)) = _ at hfound
  cases hlookup : w.cluster.pods.find? fun pod => pod.name? == name && liesIn ns pod with
  | none =>
      rw [hlookup] at hfound
      cases hfound
  | some pod' =>
      rw [hlookup] at hfound
      cases hfound
      exact ⟨rfl, rfl⟩

end Cluster

end PodReach
