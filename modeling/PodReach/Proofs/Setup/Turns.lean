import Mathlib.Data.List.Forall2
import PodReach.Proofs.Setup.Clients

/-!
# Turns of a working client

A client works if its server answers only that an object does not exist or that it exists already,
nobody interrupts it, it has an account if it needs one, and what it announces can be rendered. Its
turns are then moves of a few
kinds. A move says where the client goes on and what it creates, and nothing is created that is
there. A client shows one line for each object that it creates, and none otherwise.
-/

namespace PodReach

open Run World Cluster

/-! ## What a client shows -/

/-- The line that an entry shows on the console, if it shows one. -/
def Entry.line? : Entry → Option String
  | .display (.line text) => some text
  | _ => none

namespace World

/-- The lines that were shown between two worlds. -/
def linesSince (w w' : World) : List String :=
  (entriesSince w w').filterMap Entry.line?

/-- A client went on in its own world: it showed these lines, and what it knows of its cluster and
of the person before it is the same. -/
structure Served (w w' : World) (lines : List String) : Prop where
  written : ∃ entries, w'.journal.toList = w.journal.toList ++ entries ∧
    entries.filterMap Entry.line? = lines
  process : w'.process = w.process
  interruptOn : w'.interruptOn = w.interruptOn
  markup : w'.markup = w.markup
  ns : w'.cluster.ns = w.cluster.ns
  context : w'.cluster.context = w.cluster.context
  authProvider : w'.cluster.authProvider = w.cluster.authProvider
  broken : w'.cluster.broken = w.cluster.broken

namespace Served

variable {w w' w'' : World} {lines lines' : List String}

theorem trans (h : Served w w' lines) (h' : Served w' w'' lines') :
    Served w w'' (lines ++ lines') where
  written := by
    obtain ⟨first, hfirst, hlines⟩ := h.written
    obtain ⟨second, hsecond, hlines'⟩ := h'.written
    refine ⟨first ++ second, by rw [hsecond, hfirst, List.append_assoc], ?_⟩
    rw [List.filterMap_append, hlines, hlines']
  process := h'.process.trans h.process
  interruptOn := h'.interruptOn.trans h.interruptOn
  markup := h'.markup.trans h.markup
  ns := h'.ns.trans h.ns
  context := h'.context.trans h.context
  authProvider := h'.authProvider.trans h.authProvider
  broken := h'.broken.trans h.broken

theorem noted (w : World) (entries : List Entry) :
    Served w (w.noted entries) (entries.filterMap Entry.line?) :=
  ⟨⟨entries, journal_noted w entries, rfl⟩, rfl, rfl, rfl, rfl, rfl, rfl, rfl⟩

theorem refl (w : World) : Served w w [] :=
  ⟨⟨[], (List.append_nil _).symm, rfl⟩, rfl, rfl, rfl, rfl, rfl, rfl, rfl⟩

theorem meeting (w : World) (o : Setup.Objects) : Served w (w.meeting o) [] :=
  ⟨⟨[], (List.append_nil _).symm, rfl⟩, rfl, rfl, rfl, rfl, rfl, rfl, rfl⟩

theorem requested (w : World) (call : Call) : Served w (w.requested call) [] :=
  ⟨⟨[.call call], by rw [requested_eq]; exact journal_noted w _, rfl⟩, rfl, rfl, rfl, rfl, rfl, rfl,
    rfl⟩

/-- A request may change the objects. -/
theorem changed {cluster : Cluster} (w : World) (call : Call) (hns : cluster.ns = w.cluster.ns)
    (hcontext : cluster.context = w.cluster.context)
    (hprovider : cluster.authProvider = w.cluster.authProvider)
    (hbroken : cluster.broken = w.cluster.broken) :
    Served w ((w.requested call).withCluster cluster) [] where
  written := (requested w call).written
  process := rfl
  interruptOn := rfl
  markup := rfl
  ns := hns
  context := hcontext
  authProvider := hprovider
  broken := hbroken

theorem linesSince_eq {w₀ : World} (h : Served w w' lines) (hgrown : w₀.Grew w) :
    w₀.Grew w' ∧ linesSince w₀ w' = linesSince w₀ w ++ lines := by
  obtain ⟨entries, hjournal, hlines⟩ := h.written
  refine ⟨hgrown.trans ⟨entries, hjournal.symm⟩, ?_⟩
  rw [linesSince, entriesSince_append hgrown hjournal, List.filterMap_append, hlines]
  rfl

end Served

end World

namespace Setup

/-! ## Working clients -/

/-- What announces an object can be rendered. -/
def Made.Tellable (object : Made) (markup : Markup) : Prop :=
  ∀ line, object.Announced line → markup.renders line = true

/-- Looking up an account finds one that can be announced, and shows nothing. -/
def FindsAccount (lookup : Run String) (w : World) : Prop :=
  ∀ v : World, v.process = w.process → ∃ user entries,
    lookup v = (.ok user, v.noted entries) ∧ user.isEmpty = false ∧
      entries.filterMap Entry.line? = [] ∧
      (Made.binding bindingName (bindingBody user)).Tellable w.markup

theorem runProcess_of_finished {w : World} {code : Int} {out err : String} (command : List String)
    (timeout : Yaml) (h : w.process = .finished code out err) :
    runProcess command timeout w =
      (.ok (code, out, err), w.noted [.call (.process command timeout)]) := by
  have hnoted : (w.noted [.call (.process command timeout)]).process = .finished code out err := h
  unfold runProcess
  rw [bind_of_ok (record_apply _ w), bind_of_ok (get_apply _), hnoted]
  rfl

/-- Someone who is logged in to the cloud has an account. -/
theorem findsAccount_of_finished {w : World} {out err : String}
    (hprocess : w.process = .finished 0 out err) (hout : (Text.strip out).isEmpty = false)
    (htold : (Made.binding bindingName (bindingBody (Text.strip out))).Tellable w.markup) :
    FindsAccount cloudAccount w := fun _ hv =>
  ⟨Text.strip out, _, bind_of_ok (runProcess_of_finished _ _ (hv.trans hprocess)), hout, rfl, htold⟩

/-- A client whose server answers only that an object does not exist or that it exists already, whom
nobody interrupts, who has an account if it needs one, and who can say what was created. -/
structure Client.Working (name : String) (c : Client) : Prop where
  named : c.ns.orElse c.world.cluster.ns = .text name
  answered : ∀ service ∈ [Service.readNamespace, .createNamespace, .readBinding, .createBinding],
    ∀ n, c.world.cluster.broken service n = none
  undisturbed : c.world.interruptOn = none
  told : (Made.ns (.text name)).Tellable c.world.markup
  account : isLocal c.world.cluster.context = false →
    Yaml.same c.world.cluster.authProvider (.text "gcp") = true → FindsAccount c.lookup c.world

variable {name : String} {c : Client} {o : Objects} {stage : Stage} {w : World}
  {lines : List String} {made : List Made}

/-- A client goes on working. -/
theorem Client.Working.served (h : c.Working name) (hserved : Served c.world w lines) :
    Client.Working name { c with stage := stage, world := w } where
  named := by rw [hserved.ns]; exact h.named
  answered := by
    rw [hserved.broken]
    exact h.answered
  undisturbed := hserved.interruptOn.trans h.undisturbed
  told := by
    rw [hserved.markup]
    exact h.told
  account := by
    unfold FindsAccount
    rw [hserved.context, hserved.authProvider, hserved.markup]
    intro hlocal hgcp v hv
    exact h.account hlocal hgcp v (hv.trans hserved.process)

/-! ## Turns -/

/-- The stage of a client once the namespace exists. -/
def Client.afterNamespace (c : Client) : Stage :=
  if isLocal c.world.cluster.context then .ended (.ok ()) else .readBinding

/-- A client is at a stage to which its work can have led it. -/
def Client.Placed (name : String) (c : Client) : Prop :=
  match c.stage with
  | .readNamespace => True
  | .createNamespace other => other = .text name
  | .readBinding => isLocal c.world.cluster.context = false
  | .createBinding user => isLocal c.world.cluster.context = false ∧
      (Made.binding bindingName (bindingBody user)).Tellable c.world.markup
  | .ended outcome => outcome = .ok ()

/-- What a turn of a working client can be: where it leads, and what it creates. -/
inductive Moves (name : String) (o : Objects) (c : Client) : Stage → List Made → Prop
  | namespaceFound (stage : c.stage = .readNamespace) (has : o.hasNamespace (.text name) = true) :
      Moves name o c c.afterNamespace []
  | namespaceMissing (stage : c.stage = .readNamespace) :
      Moves name o c (.createNamespace (.text name)) []
  | namespaceTaken (stage : c.stage = .createNamespace (.text name))
      (has : o.hasNamespace (.text name) = true) : Moves name o c c.afterNamespace []
  | namespaceCreated (stage : c.stage = .createNamespace (.text name))
      (lacks : o.hasNamespace (.text name) = false) :
      Moves name o c c.afterNamespace [.ns (.text name)]
  | bindingFound (stage : c.stage = .readBinding) : Moves name o c (.ended (.ok ())) []
  | bindingMissing (user : String) (stage : c.stage = .readBinding)
      (told : (Made.binding bindingName (bindingBody user)).Tellable c.world.markup) :
      Moves name o c (.createBinding user) []
  | bindingTaken (user : String) (stage : c.stage = .createBinding user) :
      Moves name o c (.ended (.ok ())) []
  | bindingCreated (user : String) (stage : c.stage = .createBinding user)
      (lacks : o.hasBinding bindingName = false) :
      Moves name o c (.ended (.ok ())) [.binding bindingName (bindingBody user)]
  | finished (outcome : Except Halt Unit) (stage : c.stage = .ended outcome) :
      Moves name o c (.ended outcome) []

theorem afterNamespace_apply (w : World) : Stage.afterNamespace w =
    (.ok (if isLocal w.cluster.context then .ended (.ok ()) else .readBinding), w) := by
  unfold Stage.afterNamespace
  rw [bind_of_ok (get_apply w)]
  split <;> rfl

/-- A success is shown if it can be rendered and nobody interrupts it. -/
theorem success_of_undisturbed {message : String}
    (hrenders : w.markup.renders (successLine message) = true) (h : w.interruptOn = none) :
    Console.success message w = (.ok (), w.noted [.display (.line (successLine message))]) :=
  line_of_calm hrenders h

/-- A step leads to a stage, and what it creates is there and is shown. -/
def LeadsTo (w : World) (stage : Stage) (made : List Made) (run : Except Halt Stage × World) :
    Prop :=
  ∃ w' lines, run = (.ok stage, w') ∧ w'.objects = w.objects.plus made ∧ Served w w' lines ∧
    List.Forall₂ Made.Announced made lines

section Next

variable {ns : Yaml} {lookup : Run String} {next : Run Stage}

/-- What creates nothing only leaves a request. -/
theorem leadsTo_of_requested {call : Call} {run : Except Halt Stage × World}
    (h : run = (.ok stage, w.requested call)) : LeadsTo w stage [] run :=
  ⟨_, [], h, (Objects.plus_nil _).symm, .requested w call, .nil⟩

/-- What was created is announced. -/
theorem leadsTo_of_announced {object : Made} {w₁ : World} {message : String}
    (hobjects : w₁.objects = w.objects.plus [object]) (hserved : Served w w₁ [])
    (hundisturbed : w.interruptOn = none) (htold : object.Tellable w.markup)
    (hannounced : object.Announced (successLine message))
    (hnext : ∀ v : World, v.cluster = w₁.cluster → next v = (.ok stage, v)) :
    LeadsTo w stage [object] ((Console.success message >>= fun _ => next) w₁) := by
  have hshown : Console.success message w₁ =
      (.ok (), w₁.noted [.display (.line (successLine message))]) :=
    success_of_undisturbed (hserved.markup ▸ htold _ hannounced)
      (hserved.interruptOn.trans hundisturbed)
  exact ⟨_, _, (bind_of_ok hshown).trans (hnext _ rfl), hobjects, hserved.trans (.noted w₁ _),
    .cons hannounced .nil⟩

/-! ### The namespace -/

theorem readNamespace_of_answered (name : String)
    (hanswered : ∀ n, w.cluster.broken .readNamespace n = none) :
    readNamespace (.text name) w =
      (if w.objects.hasNamespace (.text name) then .ok () else .error (.fault .notFound),
        w.requested (.readNamespace (.text name))) := by
  rw [readNamespace_apply, hanswered]
  rfl

theorem createNamespace_of_taken (hanswered : ∀ n, w.cluster.broken .createNamespace n = none)
    (has : w.objects.hasNamespace (.text name) = true) : createNamespace (.text name) w =
      (.error (.fault .conflict), w.requested (.createNamespace (.text name))) := by
  rw [createNamespace_apply, hanswered]
  exact if_pos has

theorem createNamespace_of_lacking (hanswered : ∀ n, w.cluster.broken .createNamespace n = none)
    (lacks : w.objects.hasNamespace (.text name) = false) :
    ∃ w', createNamespace (.text name) w = (.ok (), w') ∧
      w'.objects = w.objects.plus [.ns (.text name)] ∧ Served w w' [] := by
  rw [createNamespace_apply, hanswered]
  have hnot : ¬ w.cluster.namespaces.any (Yaml.same (.text name)) = true := by
    rw [show w.cluster.namespaces.any _ = false from lacks]
    exact Bool.false_ne_true
  refine ⟨_, if_neg hnot, ?_, .changed w _ rfl rfl rfl rfl⟩
  simp [Objects.plus, Made.ns?, Made.binding?, World.objects, World.withCluster, World.requested]

/-- The stage that follows the namespace in a world. -/
abbrev stageAfter (w : World) : Stage :=
  if isLocal w.cluster.context then .ended (.ok ()) else .readBinding

theorem leadsTo_readNamespace (w : World) (lookup : Run String)
    (hns : ns.orElse w.cluster.ns = .text name)
    (hanswered : ∀ n, w.cluster.broken .readNamespace n = none) :
    LeadsTo w (if w.objects.hasNamespace (.text name) then stageAfter w
      else .createNamespace (.text name)) [] (Stage.readNamespace.next ns lookup w) := by
  have hread := readNamespace_of_answered name hanswered
  have hfirst : Stage.readNamespace.next ns lookup w = _ := bind_of_ok (nsOr_apply ns w)
  rw [hfirst, hns]
  cases has : w.objects.hasNamespace (.text name) with
  | true =>
      rw [has] at hread
      exact leadsTo_of_requested
        ((bind_of_ok (doneUnless_of_ok hread)).trans (afterNamespace_apply _))
  | false =>
      rw [has] at hread
      exact leadsTo_of_requested (bind_of_ok (doneUnless_of_expected hread))

theorem leadsTo_createNamespace (w : World) (ns : Yaml) (lookup : Run String) (name : String)
    (hanswered : ∀ n, w.cluster.broken .createNamespace n = none)
    (hundisturbed : w.interruptOn = none) (htold : (Made.ns (.text name)).Tellable w.markup) :
    LeadsTo w (stageAfter w)
      (if w.objects.hasNamespace (.text name) then [] else [.ns (.text name)])
      ((Stage.createNamespace (.text name)).next ns lookup w) := by
  cases has : w.objects.hasNamespace (.text name) with
  | true =>
      have htaken := createNamespace_of_taken hanswered has
      exact leadsTo_of_requested
        ((bind_of_ok (doneUnless_of_expected htaken)).trans (afterNamespace_apply _))
  | false =>
      obtain ⟨w₁, hcreate, hobjects, hserved⟩ := createNamespace_of_lacking hanswered has
      have hcreated : (Stage.createNamespace (.text name)).next ns lookup w =
          (Stage.announceNamespace (.text name) >>= fun _ => Stage.afterNamespace) w₁ :=
        bind_of_ok (doneUnless_of_ok hcreate)
      rw [hcreated]
      refine leadsTo_of_announced hobjects hserved hundisturbed htold (.ns _) fun v hv => ?_
      rw [afterNamespace_apply, hv, hserved.context]

/-! ### The role binding -/

theorem readBinding_of_answered (hanswered : ∀ n, w.cluster.broken .readBinding n = none) :
    readBinding bindingName w =
      (if w.objects.hasBinding bindingName then .ok () else .error (.fault .notFound),
        w.requested (.readBinding bindingName)) := by
  rw [readBinding_apply, hanswered]
  rfl

theorem createBinding_of_taken (user : String)
    (hanswered : ∀ n, w.cluster.broken .createBinding n = none)
    (has : w.objects.hasBinding bindingName = true) : createBinding (bindingBody user) w =
      (.error (.fault .conflict), w.requested (.createBinding (bindingBody user))) := by
  rw [createBinding_apply, hanswered]
  exact if_pos has

theorem createBinding_of_lacking (user : String)
    (hanswered : ∀ n, w.cluster.broken .createBinding n = none)
    (lacks : w.objects.hasBinding bindingName = false) :
    ∃ w', createBinding (bindingBody user) w = (.ok (), w') ∧
      w'.objects = w.objects.plus [.binding bindingName (bindingBody user)] ∧ Served w w' [] := by
  rw [createBinding_apply, hanswered]
  have hnot : ¬ w.cluster.hasBinding (nameIn (bindingBody user)) = true := by
    rw [show w.cluster.hasBinding (nameIn (bindingBody user)) = false from lacks]
    exact Bool.false_ne_true
  refine ⟨_, if_neg hnot, ?_, .changed w _ rfl rfl rfl rfl⟩
  simp [Objects.plus, Made.ns?, Made.binding?, World.objects, World.withCluster, World.requested,
    show nameIn (bindingBody user) = bindingName from rfl]

theorem afterMissing_of_account {user : String} {w' : World}
    (hgcp : Yaml.same w.cluster.authProvider (.text "gcp") = true)
    (hlookup : lookup w = (.ok user, w')) (hempty : user.isEmpty = false) :
    Stage.afterMissing lookup w = (.ok (.createBinding user), w') := by
  unfold Stage.afterMissing
  rw [bind_of_ok (get_apply w), if_pos hgcp, bind_of_ok hlookup, hempty]
  rfl

theorem afterMissing_of_other (hother : Yaml.same w.cluster.authProvider (.text "gcp") = false) :
    Stage.afterMissing lookup w = (.ok (.ended (.ok ())), w) := by
  unfold Stage.afterMissing
  rw [bind_of_ok (get_apply w), hother]
  rfl

theorem leadsTo_readBinding (w : World) (ns : Yaml)
    (hanswered : ∀ n, w.cluster.broken .readBinding n = none)
    (haccount : Yaml.same w.cluster.authProvider (.text "gcp") = true → FindsAccount lookup w) :
    LeadsTo w (.ended (.ok ())) [] (Stage.readBinding.next ns lookup w) ∨
      ∃ user, (Made.binding bindingName (bindingBody user)).Tellable w.markup ∧
        LeadsTo w (.createBinding user) [] (Stage.readBinding.next ns lookup w) := by
  have hread := readBinding_of_answered hanswered
  cases has : w.objects.hasBinding bindingName with
  | true =>
      rw [has] at hread
      exact Or.inl (leadsTo_of_requested (bind_of_ok (doneUnless_of_ok hread)))
  | false =>
      rw [has] at hread
      have hmissing : Stage.readBinding.next ns lookup w = Stage.afterMissing lookup _ :=
        bind_of_ok (doneUnless_of_expected hread)
      rw [hmissing]
      cases hgcp : Yaml.same w.cluster.authProvider (.text "gcp") with
      | true =>
          obtain ⟨user, entries, hlookup, hempty, hlines, htold⟩ :=
            haccount hgcp (w.requested (.readBinding bindingName)) rfl
          refine Or.inr ⟨user, htold, (w.requested (.readBinding bindingName)).noted entries, _,
            afterMissing_of_account hgcp hlookup hempty, (Objects.plus_nil _).symm,
            (Served.requested w _).trans (.noted _ entries), ?_⟩
          rw [hlines]
          exact .nil
      | false => exact Or.inl (leadsTo_of_requested (afterMissing_of_other hgcp))

theorem leadsTo_createBinding (w : World) (ns : Yaml) (lookup : Run String) (user : String)
    (hanswered : ∀ n, w.cluster.broken .createBinding n = none)
    (hundisturbed : w.interruptOn = none)
    (htold : (Made.binding bindingName (bindingBody user)).Tellable w.markup) :
    LeadsTo w (.ended (.ok ()))
      (if w.objects.hasBinding bindingName then [] else [.binding bindingName (bindingBody user)])
      ((Stage.createBinding user).next ns lookup w) := by
  cases has : w.objects.hasBinding bindingName with
  | true =>
      have htaken := createBinding_of_taken user hanswered has
      exact leadsTo_of_requested (bind_of_ok (doneUnless_of_expected htaken))
  | false =>
      obtain ⟨w₁, hcreate, hobjects, hserved⟩ := createBinding_of_lacking user hanswered has
      have hcreated : (Stage.createBinding user).next ns lookup w =
          (Stage.announceBinding user >>= fun _ => pure (.ended (.ok ()))) w₁ :=
        bind_of_ok (doneUnless_of_ok hcreate)
      rw [hcreated]
      exact leadsTo_of_announced hobjects hserved hundisturbed htold (.binding user) fun v _ => rfl

end Next

/-- A turn of a working client is one of the moves, and the client shows a line for what it creates.
-/
theorem turn_moves (hworking : c.Working name) (hplaced : c.Placed name) :
    ∃ stage made w lines, c.turn o = ({ c with stage := stage, world := w }, o.plus made) ∧
      Moves name o c stage made ∧ Served c.world w lines ∧
      List.Forall₂ Made.Announced made lines := by
  have hturn {stage : Stage} {made : List Made} (hmoves : Moves name o c stage made)
      (h : LeadsTo (c.world.meeting o) stage made
        (c.stage.next c.ns c.lookup (c.world.meeting o))) :
      ∃ stage made w lines, c.turn o = ({ c with stage := stage, world := w }, o.plus made) ∧
        Moves name o c stage made ∧ Served c.world w lines ∧
        List.Forall₂ Made.Announced made lines := by
    obtain ⟨w, lines, hnext, hobjects, hserved, hannounced⟩ := h
    refine ⟨stage, made, w, lines, ?_, hmoves, (Served.meeting c.world o).trans hserved, hannounced⟩
    rw [Client.turn_of_ok hnext, hobjects]
    rfl
  unfold Client.Placed at hplaced
  cases hstage : c.stage with
  | readNamespace =>
      have hleads := leadsTo_readNamespace (c.world.meeting o) c.lookup hworking.named
        (hworking.answered _ (by simp))
      rw [objects_meeting] at hleads
      cases has : o.hasNamespace (.text name) with
      | true =>
          rw [has] at hleads
          exact hturn (.namespaceFound hstage has) (hstage ▸ hleads)
      | false =>
          rw [has] at hleads
          exact hturn (.namespaceMissing hstage) (hstage ▸ hleads)
  | createNamespace other =>
      rw [hstage] at hplaced
      obtain rfl : other = .text name := hplaced
      have hleads := leadsTo_createNamespace (c.world.meeting o) c.ns c.lookup name
        (hworking.answered _ (by simp)) hworking.undisturbed hworking.told
      rw [objects_meeting] at hleads
      cases has : o.hasNamespace (.text name) with
      | true =>
          rw [has] at hleads
          exact hturn (.namespaceTaken hstage has) (hstage ▸ hleads)
      | false =>
          rw [has] at hleads
          exact hturn (.namespaceCreated hstage has) (hstage ▸ hleads)
  | readBinding =>
      rw [hstage] at hplaced
      obtain hleads | ⟨user, htold, hleads⟩ := leadsTo_readBinding (c.world.meeting o) c.ns
        (hworking.answered _ (by simp)) (hworking.account hplaced)
      · exact hturn (.bindingFound hstage) (hstage ▸ hleads)
      · exact hturn (.bindingMissing user hstage htold) (hstage ▸ hleads)
  | createBinding user =>
      rw [hstage] at hplaced
      have hleads := leadsTo_createBinding (c.world.meeting o) c.ns c.lookup user
        (hworking.answered _ (by simp)) hworking.undisturbed hplaced.2
      rw [objects_meeting] at hleads
      cases has : o.hasBinding bindingName with
      | true =>
          rw [has] at hleads
          exact hturn (.bindingTaken user hstage) (hstage ▸ hleads)
      | false =>
          rw [has] at hleads
          exact hturn (.bindingCreated user hstage has) (hstage ▸ hleads)
  | ended outcome =>
      refine hturn (.finished outcome hstage) ?_
      rw [hstage]
      exact ⟨_, [], rfl, (Objects.plus_nil _).symm, .meeting _ o, .nil⟩

namespace Moves

variable (h : Moves name o c stage made)
include h

theorem length_made : made.length ≤ 1 := by
  cases h <;> simp

/-- A namespace is created only where there is none. -/
theorem namespaces_made : made.filterMap Made.ns? = [] ∨
    o.hasNamespace (.text name) = false ∧ made.filterMap Made.ns? = [.text name] := by
  cases h with
  | namespaceCreated stage lacks => exact Or.inr ⟨lacks, rfl⟩
  | _ => exact Or.inl rfl

/-- A role binding is created only where there is none. -/
theorem bindings_made : made.filterMap Made.binding? = [] ∨
    o.hasBinding bindingName = false ∧
      ∃ user, made.filterMap Made.binding? = [(bindingName, bindingBody user)] := by
  cases h with
  | bindingCreated user stage lacks => exact Or.inr ⟨lacks, user, rfl⟩
  | _ => exact Or.inl rfl

/-- A move leads to where work can lead. -/
theorem placed (hplaced : c.Placed name) (hcontext : w.cluster.context = c.world.cluster.context)
    (hmarkup : w.markup = c.world.markup) :
    Client.Placed name { c with stage := stage, world := w } := by
  have hafter : Client.Placed name { c with stage := c.afterNamespace, world := w } := by
    unfold Client.Placed Client.afterNamespace
    cases hlocal : isLocal c.world.cluster.context with
    | true => rfl
    | false => exact (congrArg isLocal hcontext).trans hlocal
  cases h with
  | namespaceFound stage has => exact hafter
  | namespaceMissing stage => exact rfl
  | namespaceTaken stage has => exact hafter
  | namespaceCreated stage lacks => exact hafter
  | bindingFound stage => exact rfl
  | bindingMissing user stage told =>
      unfold Client.Placed at hplaced
      rw [stage] at hplaced
      exact ⟨(congrArg isLocal hcontext).trans hplaced, hmarkup ▸ told⟩
  | bindingTaken user stage => exact rfl
  | bindingCreated user stage lacks => exact rfl
  | finished outcome stage =>
      unfold Client.Placed at hplaced
      rw [stage] at hplaced
      exact hplaced

/-- Past the namespace, the namespace exists. -/
theorem passed (hpassed : c.stage.left ≤ 2 → o.hasNamespace (.text name) = true)
    (hleft : stage.left ≤ 2) : (o.plus made).hasNamespace (.text name) = true := by
  cases h with
  | namespaceFound stage has => exact Objects.hasNamespace_plus has
  | namespaceMissing stage => simp [Stage.left] at hleft
  | namespaceTaken stage has => exact Objects.hasNamespace_plus has
  | namespaceCreated stage lacks => simp [Objects.hasNamespace, Objects.plus, Made.ns?, Yaml.same]
  | _ => exact Objects.hasNamespace_plus (hpassed (by simp [*, Stage.left]))

end Moves

end Setup

end PodReach
