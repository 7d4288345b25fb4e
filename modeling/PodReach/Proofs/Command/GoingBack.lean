import PodReach.Command.Container
import PodReach.Command.Forward
import PodReach.Proofs.Discovery.Frames
import PodReach.Proofs.Discovery.Resolution
import PodReach.Proofs.Outcome
import PodReach.Proofs.World.Prompts

/-!
# Going back from a prompt

Both prompts of a command end with the choice to go back. What was asked and what was picked is
read off the journal and the answers: every prompt takes the next answer. Going back from the pods
leaves a command without a target, and a command without a target opens nothing. Going back from
the containers is another matter: choosing no container counts as having no preference, so the
first container of the pod becomes the target.
-/

namespace PodReach

open Run

namespace Entry

/-- The question and the names of the choices, if an entry shows a prompt with choices. -/
def offer? : Entry → Option (String × List String)
  | display (.choice question names _) => some (question, names)
  | _ => none

/-- Whether an entry opens a stream, a log or a tunnel of a pod, or listens on a local port. -/
def opens : Entry → Bool
  | call (.openStream ..) => true
  | call (.openPortForward ..) => true
  | call (.readLog ..) => true
  | traffic (.listening ..) => true
  | _ => false

end Entry

namespace World

variable {w w' w'' : World} {offers later : List (String × List String)} {question : String}

/-- Between two worlds someone who was asked this question picked the choice to go back. -/
def WentBack (question : String) (w w' : World) : Prop :=
  ∃ names index, ((question, names), Answer.pick index) ∈
      ((entriesSince w w').filterMap Entry.offer?).zip w.answers ∧
    names[index]? = some Pod.goBack

/-- Between two worlds these prompts were shown, in this order, each took an answer if there was
one left, and nothing was opened. -/
structure Dialogue (offers : List (String × List String)) (w w' : World) : Prop where
  shown : ∃ entries, w'.journal.toList = w.journal.toList ++ entries ∧
    entries.filterMap Entry.offer? = offers ∧ ∀ entry ∈ entries, entry.opens = false
  answers : w'.answers = w.answers.drop offers.length

namespace Dialogue

theorem refl (w : World) : Dialogue [] w w :=
  ⟨⟨[], by simp, rfl, by simp⟩, rfl⟩

theorem trans (h : Dialogue offers w w') (h' : Dialogue later w' w'') :
    Dialogue (offers ++ later) w w'' := by
  obtain ⟨⟨first, hfirst, hoffers, hclosed⟩, hanswers⟩ := h
  obtain ⟨⟨second, hsecond, hlater, hclosed'⟩, hanswers'⟩ := h'
  refine ⟨⟨first ++ second, ?_, ?_, ?_⟩, ?_⟩
  · rw [hsecond, hfirst, List.append_assoc]
  · rw [List.filterMap_append, hoffers, hlater]
  · intro entry hentry
    rcases List.mem_append.mp hentry with hmem | hmem
    · exact hclosed entry hmem
    · exact hclosed' entry hmem
  · rw [hanswers', hanswers, List.drop_drop, List.length_append]

instance : Std.Refl (Dialogue []) :=
  ⟨refl⟩

instance : IsTrans World (Dialogue []) :=
  ⟨fun _ _ _ => trans⟩

theorem offers_eq (h : Dialogue offers w w') :
    (entriesSince w w').filterMap Entry.offer? = offers := by
  obtain ⟨entries, hentries, hoffers, -⟩ := h.shown
  rw [entriesSince_eq hentries, hoffers]

theorem opens_nothing (h : Dialogue offers w w') :
    ∀ entry ∈ entriesSince w w', entry.opens = false := by
  obtain ⟨entries, hentries, -, hclosed⟩ := h.shown
  rw [entriesSince_eq hentries]
  exact hclosed

/-- Nobody goes back from a question that is not asked. -/
theorem not_wentBack (h : Dialogue offers w w') (hother : ∀ offer ∈ offers, offer.1 ≠ question) :
    ¬ WentBack question w w' := by
  rintro ⟨names, index, hmem, -⟩
  rw [h.offers_eq] at hmem
  exact hother _ (List.of_mem_zip hmem).1 rfl

/-- The only prompt takes the first answer. -/
theorem wentBack_iff {names : List String} (h : Dialogue [(question, names)] w w') :
    WentBack question w w' ↔
      ∃ index, w.answers.head? = some (.pick index) ∧ names[index]? = some Pod.goBack := by
  unfold WentBack
  rw [h.offers_eq]
  cases w.answers <;> simp [eq_comm]

private theorem zip_append {α β : Type} (first second : List α) (l : List β) :
    (first ++ second).zip l = first.zip l ++ second.zip (l.drop first.length) := by
  induction first generalizing l with
  | nil => rfl
  | cons a first ih =>
      cases l with
      | nil => simp
      | cons b l => simp [ih]

/-- Someone went back in one of two dialogues that follow each other. -/
theorem wentBack_trans (h : Dialogue offers w w') (h' : Dialogue later w' w'') :
    WentBack question w w'' ↔ WentBack question w w' ∨ WentBack question w' w'' := by
  unfold WentBack
  rw [(h.trans h').offers_eq, h.offers_eq, h'.offers_eq, h.answers, zip_append]
  simp only [List.mem_append, or_and_right, exists_or]

end Dialogue

/-- Between two worlds at most this question was asked. -/
def Consulted (question : String) (w w' : World) : Prop :=
  ∃ offers, Dialogue offers w w' ∧ ∀ offer ∈ offers, offer.1 = question

namespace Consulted

theorem of_unasked (h : Dialogue [] w w') : Consulted question w w' :=
  ⟨[], h, by simp⟩

theorem trans (h : Consulted question w w') (h' : Consulted question w' w'') :
    Consulted question w w'' := by
  obtain ⟨offers, hdialogue, hall⟩ := h
  obtain ⟨later, hdialogue', hall'⟩ := h'
  refine ⟨offers ++ later, hdialogue.trans hdialogue', ?_⟩
  intro offer hoffer
  rcases List.mem_append.mp hoffer with hmem | hmem
  · exact hall offer hmem
  · exact hall' offer hmem

instance : Std.Refl (Consulted question) :=
  ⟨fun w => of_unasked (.refl w)⟩

instance : IsTrans World (Consulted question) :=
  ⟨fun _ _ _ => trans⟩

theorem not_wentBack (h : Consulted question w w') {other : String} (hother : question ≠ other) :
    ¬ WentBack other w w' := by
  obtain ⟨offers, hdialogue, hall⟩ := h
  exact hdialogue.not_wentBack fun offer hoffer => (hall offer hoffer).trans_ne hother

/-- Someone went back in one of two parts of a run. -/
theorem wentBack_trans {question' other : String} (h : Consulted question w w')
    (h' : Consulted question' w' w'') :
    WentBack other w w'' ↔ WentBack other w w' ∨ WentBack other w' w'' := by
  obtain ⟨offers, hdialogue, -⟩ := h
  obtain ⟨later, hdialogue', -⟩ := h'
  exact hdialogue.wentBack_trans hdialogue'

/-- What comes before a question does not matter to going back from it. -/
theorem wentBack_after_unasked (h : Dialogue [] w w') (h' : Consulted question w' w'')
    (hback : WentBack question w w'') : WentBack question w' w'' := by
  have hconsulted : Consulted question w w' := of_unasked h
  exact ((hconsulted.wentBack_trans h').mp hback).resolve_left (h.not_wentBack (by simp))

end Consulted

end World

open World

/-! ## Prompts -/

namespace Console

variable {α : Type}

theorem dialogue_choose (message : String) (choices : List (String × α)) (preset : Option String)
    (w : World) :
    Dialogue [(message, choices.map (·.1))] w (choose message choices preset w).2 := by
  rw [choose_apply]
  exact ⟨⟨_, journal_noted w _, rfl, by simp [Entry.opens]⟩, List.drop_one.symm⟩

/-- If all other choices lead somewhere and have other names, nothing is chosen exactly by going
back. -/
theorem choose_eq_none_iff {choices : List (String × Option α)}
    (hforward : ∀ choice ∈ choices, choice.1 ≠ Pod.goBack ∧ choice.2 ≠ none) (message : String)
    (preset : Option String) (w : World) :
    let run := choose message (choices ++ [(Pod.goBack, none)]) preset w
    run.1 = .ok none ↔ WentBack message w run.2 := by
  intro run
  have hpick : ∀ index, picked (choices ++ [(Pod.goBack, none)]) (.pick index) = .ok none ↔
      ((choices ++ [(Pod.goBack, none)]).map Prod.fst)[index]? = some Pod.goBack := by
    intro index
    rw [List.getElem?_map, picked]
    cases hchoice : (choices ++ [(Pod.goBack, none)])[index]? with
    | none => simp
    | some choice =>
        rcases List.mem_append.mp (List.mem_of_getElem? hchoice) with hmem | hmem
        · simp [hforward choice hmem]
        · simp [List.mem_singleton.mp hmem]
  rw [(dialogue_choose message _ preset w).wentBack_iff,
    show run.1 = (taken w.answers).bind (picked _) from congrArg Prod.fst (choose_apply ..)]
  cases w.answers with
  | nil => simp [taken, Except.bind]
  | cons answer rest =>
      cases answer with
      | pick index => simpa [taken, Except.bind] using hpick index
      | _ => simp [taken, Except.bind, picked]

end Console

/-! ## The prompts of a command -/

/-- A question as it is shown. -/
def shownQuestion (question : String) : String :=
  s!"主人，{question}"

/-- Nothing is offered under the name of going back: the names of pods and containers end with
a parenthesis. -/
theorem ne_goBack (name detail : String) : name ++ s!"  ({detail})" ≠ Pod.goBack := by
  intro h
  have hlast : (name ++ s!"  ({detail})").toList.getLast? = some ')' := by
    simp only [String.toList_append, toString, ← List.append_assoc]
    exact List.getLast?_concat
  rw [h] at hlast
  exact absurd hlast (by decide)

/-- Among pods nothing is chosen exactly by going back. A single pod is not asked about. -/
theorem Pod.choose_eq_none_iff {pods : List Pod} (hpods : pods ≠ []) (question : String)
    (w : World) :
    let run := Pod.choose pods question w
    Consulted (shownQuestion question) w run.2 ∧
      (run.1 = .ok none ↔ WentBack (shownQuestion question) w run.2) := by
  intro run
  rcases pods with _ | ⟨first, _ | ⟨second, rest⟩⟩
  · exact absurd rfl hpods
  · have hdialogue := Dialogue.refl w
    exact ⟨.of_unasked hdialogue, iff_of_false nofun (hdialogue.not_wentBack (by simp))⟩
  · cases hnames : (first :: second :: rest).mapM fun pod =>
        (choiceName? pod).map fun name => (name, some pod) with
    | none =>
        have hrun : run = (.error (.mistake .noSuchPart), w) := by
          rw [← need_none]
          exact bind_of_error (hnames ▸ need_none w)
        rw [hrun]
        have hdialogue := Dialogue.refl w
        exact ⟨.of_unasked hdialogue, iff_of_false nofun (hdialogue.not_wentBack (by simp))⟩
    | some choices =>
        have hrun : run = Console.choose (shownQuestion question)
            (choices ++ [(goBack, none)]) none w := by
          exact bind_of_ok (hnames ▸ need_some choices w)
        rw [hrun]
        refine ⟨⟨_, Console.dialogue_choose .., by simp⟩, ?_⟩
        apply Console.choose_eq_none_iff
        intro choice hchoice
        have hmem := List.mem_map_of_mem (f := some) hchoice
        rw [← Outcome.map_eq_of_mapM hnames] at hmem
        obtain ⟨pod, -, hread⟩ := List.mem_map.mp hmem
        obtain ⟨name, hname, rfl⟩ := Option.map_eq_some_iff.mp hread
        obtain ⟨metadata, -, hname⟩ := Option.bind_eq_some_iff.mp hname
        obtain ⟨status, -, hname⟩ := Option.bind_eq_some_iff.mp hname
        cases hname
        exact ⟨ne_goBack _ _, nofun⟩

theorem Container.choose_eq_none_iff {containers : List Container} (hsome : containers ≠ [])
    (question : String) (w : World) :
    let run := Container.choose containers question w
    Consulted (shownQuestion question) w run.2 ∧
      (run.1 = .ok none ↔ WentBack (shownQuestion question) w run.2) := by
  intro run
  rcases containers with _ | ⟨first, _ | ⟨second, rest⟩⟩
  · exact absurd rfl hsome
  · have hdialogue := Dialogue.refl w
    exact ⟨.of_unasked hdialogue, iff_of_false nofun (hdialogue.not_wentBack (by simp))⟩
  · refine ⟨⟨_, Console.dialogue_choose .., by simp [shownQuestion]⟩, ?_⟩
    apply Console.choose_eq_none_iff
    intro choice hchoice
    obtain ⟨c, -, rfl⟩ := List.mem_map.mp hchoice
    exact ⟨ne_goBack _ _, nofun⟩

/-! ## What is done without asking -/

section Unasked

open Cluster Discovery

/-- An action that changes neither the journal nor the answers asks nobody. -/
theorem unasked_of_same {α : Type} {action : Run α}
    (h : ∀ w, (action w).2.journal = w.journal ∧ (action w).2.answers = w.answers) :
    Keeps (Dialogue []) action := by
  intro w
  obtain ⟨hjournal, hanswers⟩ := h w
  exact ⟨⟨[], by rw [hjournal, List.append_nil], rfl, by simp⟩, hanswers⟩

theorem unasked_record (entry : Entry) (hoffer : entry.offer? = none)
    (hclosed : entry.opens = false) : Keeps (Dialogue []) (record entry) := by
  intro w
  rw [record_apply]
  exact ⟨⟨[entry], journal_noted w _, by simp [hoffer], by simpa using hclosed⟩, rfl⟩

theorem unasked_line (text : String) : Keeps (Dialogue []) (Console.line text) :=
  Console.keeps_line (unasked_record _ rfl rfl) (unasked_of_same fun _ => ⟨rfl, rfl⟩)

theorem unasked_spinner (text : String) : Keeps (Dialogue []) (Console.spinner text) :=
  Console.keeps_spinner (unasked_record _ rfl rfl)

theorem unasked_pause (seconds : Double) : Keeps (Dialogue []) (Clock.pause seconds) :=
  (unasked_record _ rfl rfl).bind fun _ => unasked_of_same fun _ => ⟨rfl, rfl⟩

theorem unasked_request {service : Service} {call : Call}
    (hclosed : (Entry.call call).opens = false) :
    Keeps (Dialogue []) (request service call) := by
  intro w
  rw [request_apply]
  exact ⟨⟨[.call call], by simp [requested], rfl, by simpa using hclosed⟩, rfl⟩

theorem unasked_listPods (ns : Yaml) (labels : String) :
    Keeps (Dialogue []) (listPods ns labels) := by
  refine (unasked_request rfl).bind fun _ => ?_
  refine Keeps.bind keeps_get fun v => ?_
  refine Keeps.bind (unasked_of_same fun _ => ⟨rfl, rfl⟩) fun _ => ?_
  split
  · exact keeps_pure _
  · exact keeps_throw _

theorem unasked_readPod (name : Option String) (ns : Yaml) :
    Keeps (Dialogue []) (readPod name ns) := by
  refine (unasked_request rfl).bind fun _ => ?_
  refine Keeps.bind keeps_get fun v => ?_
  unfold found
  split
  · exact keeps_pure _
  · exact keeps_throw _

theorem unasked_search : Searched (Dialogue []) where
  pause := unasked_pause
  list := unasked_listPods
  read := unasked_readPod

end Unasked

/-! ## The target of a command -/

namespace Command

open Cluster Discovery

/-- The question about the pods, as it is shown. -/
def podQuestion : String :=
  shownQuestion Pod.usualQuestion

/-- The question about the containers of a pod, as it is shown. -/
def containerQuestion : String :=
  shownQuestion Container.usualQuestion

theorem podQuestion_ne : podQuestion ≠ containerQuestion := by
  decide

theorem consulted_containerPicker (interactive : Bool) (containers : List Container) :
    Keeps (Consulted containerQuestion) (containerPicker interactive containers) := by
  refine Keeps.bind (fun w => .of_unasked (unasked_record _ rfl rfl w)) fun _ => ?_
  split_ifs
  · intro w
    cases containers with
    | nil => exact Std.Refl.refl w
    | cons first rest => exact (Container.choose_eq_none_iff (List.cons_ne_nil _ _) _ w).1
  · exact keeps_pure _

/-- Someone who is asked for a container and goes back picks none. -/
theorem containerPicker_back {interactive : Bool} {containers : List Container} {w : World}
    (hsome : containers ≠ [])
    (hback : WentBack containerQuestion w (containerPicker interactive containers w).2) :
    (containerPicker interactive containers w).1 = .ok none := by
  have hstopped := unasked_record (.display .spinnerStopped) rfl rfl w
  unfold containerPicker Console.display at hback ⊢
  rw [bind_of_ok (record_apply _ w)] at hback ⊢
  rw [record_apply] at hstopped
  cases interactive with
  | false => rfl
  | true =>
      obtain ⟨hconsulted, hnone⟩ := Container.choose_eq_none_iff hsome Container.usualQuestion
        (w.noted [.display .spinnerStopped])
      exact hnone.mpr (Consulted.wentBack_after_unasked hstopped hconsulted hback)

/-- A container is chosen by asking at most for it. -/
theorem consulted_selectContainer (pod : Pod) (selector : Selector) (interactive : Bool) :
    Keeps (Consulted containerQuestion)
      (selectContainer pod selector (some (containerPicker interactive))) :=
  keeps_selectContainer pod selector (consulted_containerPicker interactive)

/-- Going back from the containers of a pod chooses the first of them. -/
theorem selectContainer_back {pod : Pod} {selector : Selector} {interactive : Bool} {w : World}
    (hback : WentBack containerQuestion w
      (selectContainer pod selector (some (containerPicker interactive)) w).2) :
    ∃ spec first, pod.spec = some spec ∧ spec.containers.head? = some first ∧
      (selectContainer pod selector (some (containerPicker interactive)) w).1 = .ok first := by
  -- in every branch but the last nobody is asked
  have hunasked : ∀ action : Run Container, Keeps (Dialogue []) action →
      ¬ WentBack containerQuestion w (action w).2 :=
    fun action h => (h w).not_wentBack (by simp)
  unfold selectContainer at hback ⊢
  cases hspec : pod.spec with
  | none =>
      rw [bind_of_error (hspec ▸ need_none w)] at hback
      exact absurd hback (hunasked (throw _) (keeps_throw (.mistake .noSuchPart)))
  | some spec =>
      rw [bind_of_ok (hspec ▸ need_some spec w)] at hback
      rw [bind_of_ok (need_some spec w)]
      cases hcontainers : spec.containers with
      | nil =>
          rw [hcontainers] at hback
          exact absurd hback (hunasked _ ((keeps_need _).bind fun _ => keeps_throw _))
      | cons first rest =>
          rw [hcontainers] at hback
          refine ⟨spec, first, rfl, by rw [hcontainers]; rfl, ?_⟩
          dsimp only at hback ⊢
          cases hname : Text.nonempty selector.containerName with
          | some name =>
              rw [hname] at hback
              dsimp only at hback
              cases hfind : (first :: rest).find? fun c => c.name == some name with
              | some c =>
                  rw [hfind] at hback
                  exact absurd hback (hunasked _ (keeps_pure _))
              | none =>
                  rw [hfind] at hback
                  exact absurd hback (hunasked _ ((keeps_need _).bind fun _ => keeps_throw _))
          | none =>
              rw [hname] at hback
              dsimp only at hback ⊢
              split_ifs at hback ⊢ with hsingle
              · rfl
              · unfold preferredContainer at hback ⊢
                cases hfind : (first :: rest).find? (hasSelectedImage selector.images) with
                | some c =>
                    rw [hfind] at hback
                    exact absurd hback (hunasked _ (keeps_pure _))
                | none =>
                    rw [hfind] at hback
                    dsimp only at hback ⊢
                    rw [bind_pure_apply] at hback ⊢
                    rw [containerPicker_back (List.cons_ne_nil first rest) hback]
                    rfl

/-- A selector is chosen by asking at most for the pod. -/
theorem consulted_chooseSelector (selector : Selector) :
    Keeps (Consulted podQuestion) (chooseSelector selector) := by
  have hunasked : ∀ {α : Type} {action : Run α}, Keeps (Dialogue []) action →
      Keeps (Consulted podQuestion) action := fun h w => .of_unasked (h w)
  refine Keeps.bind keeps_get fun v => ?_
  refine (hunasked (unasked_listPods _ _)).bind fun pods => ?_
  refine (keeps_need _).bind fun statuses => ?_
  dsimp only
  split_ifs with hrunning
  · exact (hunasked (unasked_line _)).bind fun _ => keeps_pure _
  · have hpods := fun h => hrunning (List.isEmpty_iff.mpr h)
    refine Keeps.bind (fun w => (Pod.choose_eq_none_iff hpods _ w).1) fun chosen => ?_
    split
    · exact keeps_pure _
    · exact (keeps_need _).bind fun _ => keeps_pure _

/-- None of the pods that the namespace of a selector holds at the moment runs. -/
def NoneRunning (selector : Selector) (w : World) : Prop :=
  ∃ pods, (listPods (selector.nsOr w.cluster.ns) "" w).1 = .ok pods ∧
    ∀ pod ∈ pods, pod.status? ≠ some "Running"

/-- The pods that are offered are those that run. -/
theorem running_eq {pods : List Pod} {statuses : List (Pod × String)}
    (h : pods.mapM (fun pod => pod.status?.map fun status => (pod, status)) = some statuses) :
    (statuses.filter fun entry => entry.2 == "Running").map (·.1) =
      pods.filter fun pod => pod.status? == some "Running" := by
  have hread := Outcome.map_eq_of_mapM h
  clear h
  induction pods generalizing statuses with
  | nil =>
      obtain rfl : statuses = [] := by simpa using hread.symm
      rfl
  | cons pod pods ih =>
      obtain ⟨entry, rest, rfl, hentry, hrest⟩ := List.map_eq_cons_iff.mp hread.symm
      obtain ⟨status, hstatus, rfl⟩ := Option.map_eq_some_iff.mp hentry.symm
      rw [List.filter_cons, List.filter_cons, hstatus, ← ih hrest.symm]
      by_cases hrunning : status = "Running" <;> simp [hrunning]

/-- Going back from the pods chooses no selector, and apart from that only having no pod to choose
does. -/
theorem chooseSelector_none (selector : Selector) (w : World) :
    let run := chooseSelector selector w
    (WentBack podQuestion w run.2 → run.1 = .ok none) ∧
      (run.1 = .ok none → WentBack podQuestion w run.2 ∨ NoneRunning selector w) := by
  intro run
  have hsilent : ∀ {w' : World}, Dialogue [] w w' → ¬ WentBack podQuestion w w' :=
    fun h => h.not_wentBack (by simp)
  have hrun : run = chooseSelector selector w := rfl
  unfold chooseSelector at hrun
  rw [bind_of_ok (get_apply w)] at hrun
  have hbefore := unasked_listPods (selector.nsOr w.cluster.ns) "" w
  rcases hlist : listPods (selector.nsOr w.cluster.ns) "" w with ⟨halt | pods, w₁⟩ <;>
    rw [hlist] at hbefore
  · rw [bind_of_error hlist] at hrun
    rw [hrun]
    exact ⟨fun hback => absurd hback (hsilent hbefore), nofun⟩
  · rw [bind_of_ok hlist] at hrun
    cases hstatuses : pods.mapM fun pod => pod.status?.map fun status => (pod, status) with
    | none =>
        rw [hstatuses, bind_of_error (need_none w₁)] at hrun
        rw [hrun]
        exact ⟨fun hback => absurd hback (hsilent hbefore), nofun⟩
    | some statuses =>
        rw [hstatuses, bind_of_ok (need_some statuses w₁)] at hrun
        dsimp only at hrun
        split_ifs at hrun with hrunning
        · have hwarned : ∀ message, Keeps (Dialogue [])
              (Console.warning message >>= fun _ => pure (none : Option Selector)) :=
            fun message => (unasked_line _).bind fun _ => keeps_pure _
          rw [hrun]
          refine ⟨fun hback => absurd hback (hsilent (hbefore.trans (hwarned _ w₁))), fun _ => ?_⟩
          refine Or.inr ⟨pods, congrArg Prod.fst hlist, ?_⟩
          rw [running_eq hstatuses, List.isEmpty_iff, List.filter_eq_nil_iff] at hrunning
          simpa using hrunning
        · obtain ⟨hconsulted, hnone⟩ := Pod.choose_eq_none_iff
            (fun h => hrunning (List.isEmpty_iff.mpr h)) Pod.usualQuestion w₁
          rcases hchoice : Pod.choose _ Pod.usualQuestion w₁ with ⟨halt | _ | pod, w₂⟩ <;>
            rw [hchoice] at hconsulted hnone
          · rw [bind_of_error hchoice] at hrun
            rw [hrun]
            refine ⟨fun hback => ?_, nofun⟩
            cases hnone.mpr (Consulted.wentBack_after_unasked hbefore hconsulted hback)
          · rw [bind_of_ok hchoice] at hrun
            rw [hrun]
            refine ⟨fun _ => rfl, fun _ => Or.inl ?_⟩
            have hstart : Consulted podQuestion w w₁ := .of_unasked hbefore
            exact (hstart.wentBack_trans hconsulted).mpr (Or.inr (hnone.mp rfl))
          · rw [bind_of_ok hchoice] at hrun
            dsimp only at hrun
            rw [bind_pure_apply] at hrun
            rw [hrun]
            constructor
            · intro hback
              have hworld : (need pod.metadata w₂).2 = w₂ := by cases pod.metadata <;> rfl
              rw [hworld] at hback
              cases hnone.mpr (Consulted.wentBack_after_unasked hbefore hconsulted hback)
            · intro h
              cases hneed : (need pod.metadata w₂).1 <;> rw [hneed] at h <;> cases h

theorem consulted_resolveSelector (selector : Selector) (interactive : Bool) :
    Keeps (Consulted containerQuestion) (resolveSelector selector interactive) := by
  refine Keeps.bind (fun w => .of_unasked (unasked_spinner _ w)) fun _ => ?_
  refine Keeps.bind (fun w => .of_unasked (keeps_resolveNewestPod unasked_search _ _ _ w))
    fun pod => ?_
  exact (consulted_selectContainer pod selector interactive).bind fun _ => keeps_pure _

/-- Going back from the containers resolves a selector to the first container of the pod. -/
theorem resolveSelector_back {selector : Selector} {interactive : Bool} {w : World}
    (hback : WentBack containerQuestion w (resolveSelector selector interactive w).2) :
    ∃ pod spec first, pod.spec = some spec ∧ spec.containers.head? = some first ∧
      (resolveSelector selector interactive w).1 = .ok (pod, first) := by
  unfold resolveSelector at hback ⊢
  have hbegun := unasked_spinner s!"[cyan]正在等待 {selector.describe} 的 Pod 就绪...[/cyan]" w
  rcases hspinner : Console.spinner s!"[cyan]正在等待 {selector.describe} 的 Pod 就绪...[/cyan]" w with
    ⟨halt | _, w₀⟩ <;> rw [hspinner] at hbegun
  · rw [bind_of_error hspinner] at hback
    exact absurd hback (hbegun.not_wentBack (by simp))
  rw [bind_of_ok hspinner] at hback ⊢
  have hfound :=
    keeps_resolveNewestPod unasked_search selector Search.usualInterval Search.usualGrace w₀
  unfold resolveNewest at hback ⊢
  rcases hpod : resolveNewestPod selector Search.usualInterval Search.usualGrace w₀ with
    ⟨halt | pod, w₁⟩ <;> rw [hpod] at hfound
  · rw [bind_of_error hpod] at hback
    exact absurd hback ((hbegun.trans hfound).not_wentBack (by simp))
  · rw [bind_of_ok hpod, bind_pure_apply] at hback ⊢
    have hchoice := Consulted.wentBack_after_unasked (hbegun.trans hfound)
      (consulted_selectContainer pod selector interactive w₁) hback
    obtain ⟨spec, first, hspec, hfirst, hselected⟩ := selectContainer_back hchoice
    refine ⟨pod, spec, first, hspec, hfirst, ?_⟩
    rw [hselected]
    rfl

/-- Choosing a pod leaves a command without a target or stops it. -/
structure Unchosen (selector : Selector) (w : World)
    (run : Except Halt (Option (Pod × Container)) × World) : Prop where
  consulted : Consulted podQuestion w run.2
  back : WentBack podQuestion w run.2 → run.1 = .ok none
  none : run.1 = .ok none → WentBack podQuestion w run.2 ∨ NoneRunning selector w

/-- The target of a command is left open by the choice of a pod, or resolved after it, if there was
one and nobody went back. -/
theorem resolveTarget_cases (selector : Selector) (interactive : Bool) (w : World) :
    Unchosen selector w (resolveTarget selector interactive w) ∨
      ∃ chosen w', Consulted podQuestion w w' ∧ ¬ WentBack podQuestion w w' ∧
        resolveTarget selector interactive w =
          ((resolveSelector chosen interactive w').1.map some,
            (resolveSelector chosen interactive w').2) := by
  unfold resolveTarget
  split_ifs with hempty
  · have hconsulted := consulted_chooseSelector selector w
    obtain ⟨hback, hnone⟩ := chooseSelector_none selector w
    rcases hchoice : chooseSelector selector w with ⟨halt | _ | chosen, w'⟩ <;>
      rw [hchoice] at hconsulted hback hnone
    · rw [bind_of_error hchoice]
      exact Or.inl ⟨hconsulted, fun h => (nomatch hback h), nofun⟩
    · rw [bind_of_ok hchoice]
      exact Or.inl ⟨hconsulted, fun _ => rfl, fun _ => hnone rfl⟩
    · rw [bind_of_ok hchoice]
      refine Or.inr ⟨chosen, w', hconsulted, fun h => (nomatch hback h), ?_⟩
      exact bind_pure_apply ..
  · have hdialogue := Dialogue.refl w
    refine Or.inr ⟨selector, w, .of_unasked hdialogue, hdialogue.not_wentBack (by simp), ?_⟩
    exact bind_pure_apply ..

/-- Finding the target of a command opens nothing. -/
theorem resolveTarget_opens_nothing (selector : Selector) (interactive : Bool) (w : World) :
    ∃ entries, (resolveTarget selector interactive w).2.journal.toList =
      w.journal.toList ++ entries ∧ ∀ entry ∈ entries, entry.opens = false := by
  rcases resolveTarget_cases selector interactive w with
    ⟨hconsulted, -, -⟩ | ⟨chosen, w', hconsulted, -, hrun⟩
  · obtain ⟨offers, hdialogue, -⟩ := hconsulted
    obtain ⟨entries, hentries, -, hclosed⟩ := hdialogue.shown
    exact ⟨entries, hentries, hclosed⟩
  · obtain ⟨offers, hdialogue, -⟩ := hconsulted
    obtain ⟨later, hdialogue', -⟩ := consulted_resolveSelector chosen interactive w'
    obtain ⟨entries, hentries, -, hclosed⟩ := (hdialogue.trans hdialogue').shown
    rw [hrun]
    exact ⟨entries, hentries, hclosed⟩

/-- **Going back from a prompt.** Going back from the pods leaves a command without a target, and
apart from that only a namespace without a running pod does. Going back from the containers makes
the first container of the pod the target. A command without a target ends in the world that the
choice left, and up to there nothing was opened. -/
theorem resolveTarget_back_law (selector : Selector) (interactive : Bool) (w : World) :
    let run := resolveTarget selector interactive w
    (WentBack podQuestion w run.2 → run.1 = .ok none) ∧
    (run.1 = .ok none → WentBack podQuestion w run.2 ∨ NoneRunning selector w) ∧
    (WentBack containerQuestion w run.2 →
      ∃ pod spec first, pod.spec = some spec ∧ spec.containers.head? = some first ∧
        run.1 = .ok (some (pod, first))) ∧
    (∀ entry ∈ entriesSince w run.2, entry.opens = false) ∧
    (interactive = true → run.1 = .ok none →
      attachToPod selector w = (.ok (), run.2) ∧
      (∀ words shell, shellIntoPod selector words shell w = (.ok none, run.2)) ∧
      (∀ follow tail, viewLogs selector follow tail w = (.ok (), run.2)) ∧
      ∀ ports addresses, forwardPorts selector ports addresses w = (.ok (), run.2)) := by
  intro run
  have hcommands : interactive = true → run.1 = .ok none →
      attachToPod selector w = (.ok (), run.2) ∧
      (∀ words shell, shellIntoPod selector words shell w = (.ok none, run.2)) ∧
      (∀ follow tail, viewLogs selector follow tail w = (.ok (), run.2)) ∧
      ∀ ports addresses, forwardPorts selector ports addresses w = (.ok (), run.2) := by
    rintro rfl hnone
    have htarget : resolveTarget selector true w = (.ok none, run.2) := Prod.ext hnone rfl
    refine ⟨?_, fun words shell => ?_, fun follow tail => ?_, fun ports addresses => ?_⟩
    · exact bind_of_ok htarget
    · exact bind_of_ok htarget
    · exact bind_of_ok htarget
    · exact bind_of_ok htarget
  rcases resolveTarget_cases selector interactive w with
    ⟨hconsulted, hback, hnone⟩ | ⟨chosen, w', hconsulted, hstays, hrun⟩
  · refine ⟨hback, hnone, ?_, ?_, hcommands⟩
    · intro hcontainer
      exact absurd hcontainer (hconsulted.not_wentBack podQuestion_ne)
    · obtain ⟨offers, hdialogue, -⟩ := hconsulted
      exact hdialogue.opens_nothing
  · have hresolved := consulted_resolveSelector chosen interactive w'
    have hrun : run = _ := hrun
    refine ⟨?_, ?_, ?_, ?_, hcommands⟩
    · intro hback
      rw [hrun] at hback
      rcases (hconsulted.wentBack_trans hresolved).mp hback with hfirst | hlater
      · exact absurd hfirst hstays
      · exact absurd hlater (hresolved.not_wentBack podQuestion_ne.symm)
    · intro hnone
      rw [hrun] at hnone
      cases houtcome : (resolveSelector chosen interactive w').1 <;> rw [houtcome] at hnone <;>
        cases hnone
    · intro hback
      rw [hrun] at hback
      obtain ⟨pod, spec, first, hspec, hfirst, houtcome⟩ := resolveSelector_back
        (((hconsulted.wentBack_trans hresolved).mp hback).resolve_left
          (hconsulted.not_wentBack podQuestion_ne))
      refine ⟨pod, spec, first, hspec, hfirst, ?_⟩
      rw [hrun, houtcome]
      rfl
    · obtain ⟨offers, hdialogue, -⟩ := hconsulted
      obtain ⟨later, hdialogue', -⟩ := hresolved
      rw [hrun]
      exact (hdialogue.trans hdialogue').opens_nothing

/-- Two pods run, and someone who is asked for one goes back: attaching ends there. -/
theorem resolveTarget_back_from_pods :
    let pod (name : String) : Pod :=
      { metadata := some ⟨some name, some "default", [], none, false⟩
        spec := some ⟨[⟨some "main", some "web:1", true, true⟩], 0⟩
        status := some ⟨some "Running", none, [], []⟩ }
    let w := { World.empty with
      answers := [.pick 2]
      cluster := { Cluster.empty with listAnswers := fun _ => .ok [pod "web-0", pod "web-1"] } }
    let run := resolveTarget .any true w
    WentBack podQuestion w run.2 ∧ run.1 = .ok none ∧
      attachToPod .any w = (.ok (), run.2) := by
  intro pod w run
  have hback : WentBack podQuestion w run.2 :=
    ⟨["web-0  (Running)", "web-1  (Running)", Pod.goBack], 2, by decide +kernel, rfl⟩
  obtain ⟨hpods, -, -, -, hcommands⟩ := resolveTarget_back_law .any true w
  exact ⟨hback, hpods hback, (hcommands rfl (hpods hback)).1⟩

/-- Someone who is asked for one of the two containers of a pod goes back, and a stream to the
first one is opened. -/
theorem resolveTarget_back_ignored :
    let main : Container := ⟨some "main", some "web:1", true, true⟩
    let sidecar : Container := ⟨some "sidecar", some "log:1", false, false⟩
    let pod : Pod :=
      { metadata := some ⟨some "web-0", some "default", [], none, false⟩
        spec := some ⟨[main, sidecar], 0⟩
        status := some ⟨some "Running", none, [], []⟩ }
    let selector := { Selector.any with podName := some "web-0" }
    let w := { World.empty with
      answers := [.pick 2]
      cluster := { Cluster.empty with pods := [pod] } }
    let run := resolveTarget selector true w
    WentBack containerQuestion w run.2 ∧ run.1 = .ok (some (pod, main)) ∧
      ∃ entry ∈ entriesSince w (attachToPod selector w).2, entry.opens = true := by
  intro main sidecar pod selector w run
  refine ⟨⟨["main  (web:1)", "sidecar  (log:1)", Pod.goBack], 2, by decide +kernel, rfl⟩,
    by decide +kernel, ?_⟩
  exact List.any_eq_true.mp (by decide +kernel)

end Command

end PodReach
