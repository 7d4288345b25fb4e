import PodReach.Proofs.Command.GoingBack
import PodReach.Proofs.Program.Endurance
import PodReach.Proofs.World.Markup

/-!
# The course of the menu

The menu is a loop of rounds. In each of them something is chosen and carried out, how it ended is
reported, and someone says whether to go on. In a sound world a round is left only where the menu
itself asks, by an action that does not come back, or where the menu itself writes. An action does
not come back if it never ends, if the input ends at a prompt of its own, or if it meets a fault
that nobody expects. The prompts of the menu take the end of the input for an interrupt, but those
of the actions do not. What the menu writes may be interrupted, and a report that quotes what was
typed may be a text that cannot be rendered.
-/

namespace PodReach.Program

open Run World

namespace Menu

variable {s : Settings} {w₀ w w' : World} {connected : Bool} {outcome : Except Halt Unit}

/-! ## The parts of a round -/

/-- Show the menu and let someone choose. -/
def offer (s : Settings) : Run (Option Choice) := do
  showHead s
  unlessLeft (Console.choose "主人，请选择操作" choices none)

/-- Carry out what was chosen: how it ended. -/
def carryOut (s : Settings) (connected : Bool) (choice : Choice) : Run (Except Halt Unit) := do
  Console.line ""
  attempt (perform s connected choice)

/-- Report how an action ended, and let someone go on. -/
def comeBack (outcome : Except Halt Unit) : Run (Option String) := do
  report outcome
  Console.line ""
  unlessLeft (Console.ask "主人，按回车键返回主菜单...")

/-- Come back from an action, and show the menu again unless someone leaves it. -/
def goOn (s : Settings) (rounds : Nat) (outcome : Except Halt Unit) : Run Unit := do
  match ← comeBack outcome with
  | none => farewell
  | some _ => loop s rounds true

/-- The loop in these parts. -/
theorem loop_succ (s : Settings) (rounds : Nat) (connected : Bool) :
    loop s (rounds + 1) connected = (do
      match ← offer s with
      | none => farewell
      | some choice =>
        if choice = .quit then farewell
        else goOn s rounds (← carryOut s connected choice)) := by
  rw [loop]
  simp only [offer, carryOut, goOn, comeBack, bind_assoc]
  refine bind_congr fun _ => bind_congr fun choice => ?_
  rcases choice with _ | choice
  · rfl
  · cases choice <;> rfl

/-! ## Rounds -/

/-- Something was chosen and carried out. -/
def Acted (s : Settings) (connected : Bool) (w : World) (outcome : Except Halt Unit)
    (w' : World) : Prop :=
  ∃ choice w₁, choice ≠ .quit ∧ offer s w = (.ok (some choice), w₁) ∧
    carryOut s connected choice w₁ = (.ok outcome, w')

/-- Someone leaves the menu: instead of choosing, by choosing to, or instead of going on. -/
inductive Leaving (s : Settings) (connected : Bool) (w w' : World) : Prop
  | unchosen (offered : offer s w = (.ok none, w'))
  | quit (offered : offer s w = (.ok (some .quit), w'))
  | after {outcome : Except Halt Unit} {w₁ : World} (acted : Acted s connected w outcome w₁)
      (left : comeBack outcome w₁ = (.ok none, w'))

/-- How an action can end for the menu to go on. -/
inductive Returns : Except Halt Unit → Prop
  | done : Returns (.ok ())
  | failed (failure : Failure) : Returns (.error (.failed failure))
  | answered (status : Int) (reason : Option String) :
      Returns (.error (.fault (.api status reason)))
  | interrupted : Returns (.error .interrupted)

/-- The menu stops where it writes itself. The head of the menu and the report of an action may be
texts that cannot be rendered; anywhere else only an interrupt stops it. -/
inductive Startled (s : Settings) (connected : Bool) (w w' : World) : Halt → Prop
  | offering {halt : Halt} (h : offer s w = (.error halt, w')) : Startled s connected w w' halt
  | acting {choice : Choice} {w₁ : World} (offered : offer s w = (.ok (some choice), w₁))
      (h : carryOut s connected choice w₁ = (.error .interrupted, w')) :
      Startled s connected w w' .interrupted
  | returning {outcome : Except Halt Unit} {halt : Halt} {w₁ : World}
      (acted : Acted s connected w outcome w₁) (returns : Returns outcome)
      (h : comeBack outcome w₁ = (.error halt, w')) : Startled s connected w w' halt
  | leaving {w₁ : World} (left : Leaving s connected w w₁)
      (h : farewell w₁ = (.error .interrupted, w')) : Startled s connected w w' .interrupted

/-- The course of the menu, with the client built or not, from a world to its end. -/
inductive Course (s : Settings) : Bool → World → Except Halt Unit → World → Prop
  | left {connected : Bool} {w w₁ w' : World} (leaving : Leaving s connected w w₁)
      (bye : farewell w₁ = (.ok (), w')) : Course s connected w (.ok ()) w'
  | again {connected : Bool} {w w₁ w₂ w' : World} {outcome last : Except Halt Unit}
      {answer : String} (acted : Acted s connected w outcome w₁)
      (back : comeBack outcome w₁ = (.ok (some answer), w₂)) (rest : Course s true w₂ last w') :
      Course s connected w last w'
  | escaped {connected : Bool} {w w' : World} {halt : Halt}
      (acted : Acted s connected w (.error halt) w') (h : ¬ Returns (.error halt)) :
      Course s connected w (.error halt) w'
  | startled {connected : Bool} {w w' : World} {halt : Halt}
      (h : Startled s connected w w' halt) : Course s connected w (.error halt) w'

/-! ## Actions -/

/-- Without options nothing is said about the pod. -/
theorem endures_select (s : Settings) :
    Endures w₀ (Tolerable w₀) (fun selector => selector.isEmpty = true) (s.select .none) :=
  endures_pure rfl

/-- Whatever is chosen, it comes to nothing that is not tolerable. -/
theorem endures_perform (hs : s.Usable w₀) (connected : Bool) (choice : Choice) :
    Endures w₀ (Tolerable w₀) Whatever (perform s connected choice) := by
  obtain ⟨address, haddress, hhosts⟩ := hs.address
  refine endures_when (endures_connect hs.ns) ?_
  refine (endures_select s).bind fun selector hselector => ?_
  cases choice with
  | pods =>
      rw [act]
      exact Command.endures_listPodsOf "" fun _ => hs.ns
  | exec =>
      rw [act]
      refine (Command.endures_shellIntoPod (Or.inl hselector) [] hs.shell).bind fun _ _ => ?_
      exact endures_pure trivial
  | attach =>
      rw [act]
      exact Command.endures_attachToPod (Or.inl hselector)
  | logs =>
      rw [act]
      exact Command.endures_viewLogs (Or.inl hselector) _ _
  | portForward =>
      have hall : ∀ host ∈ Forward.resolveAddresses [address], w₀.network.takesHost host = true :=
        takesHost_of_resolved (List.cons_ne_nil _ _) (List.forall_mem_singleton.mpr hhosts)
      have hforward (ports : List String) : Endures w₀ (Tolerable w₀) Whatever
          (Command.forwardPorts selector ports ([address].map .text)) :=
        Command.endures_forwardPorts (Or.inl hselector) ports hall
      rw [act, haddress]
      refine (endures_ask _).bind fun written _ => ?_
      dsimp only
      split
      · exact hforward _
      · exact endures_pure trivial
  | quit => exact endures_pure trivial

/-! ## Prompts and reports -/

/-- An answer, an interrupt or the end of the input is all that a prompt can take. -/
theorem halt_of_taken {answers : List Answer} {halt : Halt}
    (h : Console.taken answers = .error halt) : halt = .interrupted ∨ halt = .endOfInput := by
  rcases answers with _ | ⟨_ | _ | _ | _, _⟩ <;> cases h
  · exact Or.inl rfl
  · exact Or.inl rfl
  · exact Or.inr rfl

section Prompts

variable {α : Type} {prompt : Run α}

/-- A prompt that ends only with an answer, an interrupt or the end of the input, and leaves it to
others to wait for an interrupt. -/
def Prompts (prompt : Run α) : Prop :=
  ∀ w, (prompt w).2.interruptOn = w.interruptOn ∧ (prompt w).2.markup = w.markup ∧
    ∀ halt, (prompt w).1 = .error halt → halt = .interrupted ∨ halt = .endOfInput

theorem prompts_choose (message : String) (choices : List (String × α)) (preset : Option String) :
    Prompts (Console.choose message choices preset) := by
  intro w
  rw [Console.choose_apply]
  refine ⟨rfl, rfl, fun halt h => ?_⟩
  rcases Outcome.bind_eq_error_iff.mp h with h | ⟨answer, -, h⟩
  · exact halt_of_taken h
  · refine Or.inl ?_
    unfold Console.picked at h
    split at h
    · split at h <;> cases h
      rfl
    · cases h
      rfl

theorem prompts_ask (message : String) : Prompts (Console.ask message) := by
  intro w
  unfold Console.ask Console.typedAnswer Console.display
  rw [bind_of_ok (record_apply _ w), bind_apply, Console.nextAnswer_apply]
  cases htaken : Console.taken (w.noted [.display (.question message)]).answers with
  | error halt =>
      refine ⟨rfl, rfl, fun halt' h => ?_⟩
      cases h
      exact halt_of_taken htaken
  | ok answer =>
      cases answer with
      | typed text => exact ⟨rfl, rfl, nofun⟩
      | _ => exact ⟨rfl, rfl, fun halt h => Or.inl (Except.error.inj h).symm⟩

/-- A prompt of the menu itself is never interrupted. -/
theorem unlessLeft_apply (h : Prompts prompt) (w : World) :
    ∃ answer?, unlessLeft prompt w = (.ok answer?, (prompt w).2) ∧
      ∀ answer, answer? = some answer → (prompt w).1 = .ok answer := by
  have hhalt := (h w).2.2
  unfold unlessLeft
  rw [bind_of_ok (attempt_apply prompt w)]
  cases hrun : (prompt w).1 with
  | error halt =>
      rcases hhalt halt hrun with rfl | rfl
      · exact ⟨none, rfl, nofun⟩
      · exact ⟨none, rfl, nofun⟩
  | ok answer => exact ⟨some answer, rfl, fun _ heq => congrArg Except.ok (Option.some.inj heq)⟩

theorem shows_unlessLeft (h : Prompts prompt) : Shows (unlessLeft prompt) := by
  intro w
  obtain ⟨answer?, hrun, -⟩ := unlessLeft_apply h w
  rw [hrun]
  exact ⟨(h w).2.1, (h w).1⟩

theorem endures_unlessLeft {P : α → Prop} (h : Endures w₀ (Tolerable w₀) P prompt) :
    Endures w₀ (Tolerable w₀) Whatever (unlessLeft prompt) := by
  refine h.attempt.bind fun answered hanswered => ?_
  split
  · exact endures_pure trivial
  · exact endures_pure trivial
  · exact endures_pure trivial
  · exact endures_throw hanswered

end Prompts

theorem shows_offer (s : Settings) : Shows (offer s) := by
  have hhead : Shows (showHead s) :=
    (shows_record _).bind fun _ => (shows_record _).bind fun _ => shows_line _
  exact hhead.bind fun _ => shows_unlessLeft (prompts_choose _ _ _)

theorem endures_offer (s : Settings) : Endures w₀ (Tolerable w₀) Whatever (offer s) := by
  have hhead : Endures w₀ (Tolerable w₀) Whatever (showHead s) :=
    (endures_display _).bind fun _ _ => (endures_display _).bind fun _ _ => endures_line _
  exact hhead.bind fun _ _ => endures_unlessLeft (endures_choose _ _ _)

/-- A choice takes an answer. -/
theorem length_of_offered {choice : Choice} (h : offer s w = (.ok (some choice), w')) :
    w'.answers.length < w.answers.length := by
  obtain ⟨_, v, hhead, hchosen⟩ := bind_eq_ok h
  have hunasked : Keeps (Dialogue []) (showHead s) :=
    (unasked_record _ rfl rfl).bind fun _ => (unasked_record _ rfl rfl).bind fun _ =>
      unasked_line _
  have hanswers : v.answers = w.answers := (hunasked.of_run hhead).answers
  obtain ⟨choice?, hrun, hanswer⟩ := unlessLeft_apply (prompts_choose _ choices none) v
  obtain ⟨hsome, rfl⟩ := Prod.mk.inj (hrun.symm.trans hchosen)
  have hpicked := hanswer choice (Except.ok.inj hsome)
  rw [Console.choose_apply] at hpicked ⊢
  obtain ⟨answer, htaken, -⟩ := Outcome.bind_eq_ok_iff.mp hpicked
  rw [← hanswers]
  cases hleft : v.answers with
  | nil =>
      rw [hleft] at htaken
      cases htaken
  | cons answer rest => simp

theorem shows_comeBack (h : Returns outcome) : Shows (comeBack outcome) := by
  have hreport : Shows (report outcome) := by
    cases h with
    | done => exact shows_pure _
    | _ => exact shows_line _
  refine hreport.bind fun _ => (shows_line _).bind fun _ => ?_
  exact shows_unlessLeft (prompts_ask _)

theorem endures_comeBack (h : Returns outcome) :
    Endures w₀ (Tolerable w₀) Whatever (comeBack outcome) := by
  have hreport : Endures w₀ (Tolerable w₀) Whatever (report outcome) := by
    cases h with
    | done => exact endures_pure trivial
    | _ => exact endures_line _
  refine hreport.bind fun _ _ => (endures_line _).bind fun _ _ => ?_
  exact endures_unlessLeft (endures_ask _)

/-- An action that is over leads back, or it escapes. -/
theorem returns_or_escapes (h : Within (Tolerable w₀) Whatever outcome) :
    Returns outcome ∨ ∃ halt, outcome = .error halt ∧ ¬ Returns outcome ∧ Escapes w₀ halt := by
  by_cases hreturns : Returns outcome
  · exact Or.inl hreturns
  · rcases outcome with halt | _
    · refine Or.inr ⟨halt, rfl, hreturns, escapes_of_tolerable h ?_ ?_ ?_⟩
      · rintro failure rfl
        exact hreturns (.failed failure)
      · rintro status reason rfl
        exact hreturns (.answered status reason)
      · rintro rfl
        exact hreturns .interrupted
    · exact absurd .done hreturns

/-- What does not lead back is not reported. -/
theorem comeBack_of_not_returns {halt : Halt} (h : ¬ Returns (.error halt)) (w : World) :
    comeBack (.error halt) w = (.error halt, w) := by
  have hreport : report (.error halt) w = (.error halt, w) := by
    cases halt with
    | failed failure => exact absurd (.failed failure) h
    | interrupted => exact absurd .interrupted h
    | fault fault =>
        cases fault with
        | api status reason => exact absurd (.answered status reason) h
        | _ => rfl
    | _ => rfl
  exact bind_of_error hreport

/-! ## The whole course -/

/-- What the menu may end with: by itself, or with what escapes. -/
def Ends (w : World) : Except Halt Unit → Prop
  | .ok _ => True
  | .error halt => Escapes w halt

theorem Ends.of_precedes (h : w.Precedes w') (hends : Ends w' outcome) : Ends w outcome := by
  rcases outcome with halt | _
  · exact Escapes.of_precedes h hends
  · trivial

/-- What only writes in a sound world is done, unless someone who waited for it interrupts or a text
cannot be rendered. -/
theorem cases_of_shows {α : Type} {P : α → Prop} {action : Run α} (hshows : Shows action)
    (h : Endures w₀ (Tolerable w₀) P action) (hw : w₀.Precedes w) :
    (∃ halt w', action w = (.error halt, w') ∧ Escapes w halt) ∨
      ∃ a w', action w = (.ok a, w') ∧ w₀.Precedes w' ∧ P a := by
  obtain ⟨-, hown⟩ := hshows w
  obtain ⟨hworld, hresult⟩ := h w hw
  rcases hrun : action w with ⟨halt | a, w'⟩ <;> rw [hrun] at hown hworld hresult
  · refine Or.inl ⟨halt, w', rfl, ?_⟩
    cases hown with
    | interrupted awaited => exact .startled awaited
    | unrendered unrendered => exact .unrendered unrendered
  · exact Or.inr ⟨a, w', rfl, hworld, hresult⟩

/-- A line that can be rendered is written, unless someone who waited for it interrupts. -/
theorem cases_of_line {text : String} (hrenders : w.markup.renders text = true)
    (hw : w₀.Precedes w) :
    (∃ w', Console.line text w = (.error .interrupted, w') ∧ w.interruptOn ≠ none) ∨
      ∃ w', Console.line text w = (.ok (), w') ∧ w₀.Precedes w' := by
  obtain ⟨hworld, -⟩ : w₀.Precedes (Console.line text w).2 ∧ _ := endures_line text w hw
  obtain ⟨-, hown⟩ := shows_line text w
  rcases hrun : Console.line text w with ⟨halt | _, w'⟩ <;> rw [hrun] at hown hworld
  · cases hown with
    | interrupted awaited => exact Or.inl ⟨w', rfl, awaited⟩
    | unrendered =>
        rw [line_apply, if_pos hrenders] at hrun
        split at hrun <;> cases hrun
  · exact Or.inr ⟨w', rfl, hworld⟩

theorem carryOut_cases (hs : s.Usable w₀) (connected : Bool) (choice : Choice)
    (hw : w₀.Precedes w) :
    (∃ w', carryOut s connected choice w = (.error .interrupted, w') ∧ w.interruptOn ≠ none) ∨
      ∃ outcome w', carryOut s connected choice w = (.ok outcome, w') ∧ w₀.Precedes w' ∧
        Within (Tolerable w₀) Whatever outcome := by
  unfold carryOut
  rcases cases_of_line Markup.renders_empty hw with ⟨w', hrun, halarm⟩ | ⟨v, hrun, hv⟩
  · exact Or.inl ⟨w', bind_of_error hrun, halarm⟩
  · have hperform : Endures w₀ (Tolerable w₀) Whatever (perform s connected choice) :=
      endures_perform hs connected choice
    obtain ⟨hworld, hresult⟩ := hperform v hv
    refine Or.inr ⟨_, _, ?_, hworld, hresult⟩
    rw [bind_of_ok hrun]
    rfl

/-- Whoever leaves the menu is taken leave of. -/
theorem course_of_leaving {w₁ : World} (hleaving : Leaving s connected w w₁)
    (hw₁ : w.Precedes w₁) :
    Course s connected w (farewell w₁).1 (farewell w₁).2 ∧ Ends w (farewell w₁).1 := by
  have hrenders : w₁.markup.renders "\n[cyan]👋 主人再见！[/cyan]" = true :=
    w₁.markup.word "\n" "cyan" "👋 主人再见！" "" (by decide) (by decide) (by decide) (by decide)
  rcases cases_of_line hrenders hw₁ with ⟨w', hrun, halarm⟩ | ⟨w', hrun, -⟩
  · have hfarewell : farewell w₁ = (.error .interrupted, w') := hrun
    rw [hfarewell]
    exact ⟨.startled (.leaving hleaving hfarewell),
      Escapes.of_precedes hw₁ (.startled halarm)⟩
  · have hfarewell : farewell w₁ = (.ok (), w') := hrun
    rw [hfarewell]
    exact ⟨.left hleaving hfarewell, trivial⟩

/-- An action that was carried out leads on, unless it escapes. -/
theorem course_of_acted {w₁ w₂ : World} {rounds : Nat} (hacted : Acted s connected w outcome w₂)
    (hw₁ : w.Precedes w₁) (hw₂ : w₁.Precedes w₂) (hwithin : Within (Tolerable w₁) Whatever outcome)
    (hrest : ∀ w₃, w₁.Precedes w₃ →
      Course s true w₃ (loop s rounds true w₃).1 (loop s rounds true w₃).2 ∧
        Ends w₃ (loop s rounds true w₃).1) :
    Course s connected w (goOn s rounds outcome w₂).1 (goOn s rounds outcome w₂).2 ∧
      Ends w (goOn s rounds outcome w₂).1 := by
  unfold goOn
  rcases returns_or_escapes hwithin with hreturns | ⟨halt, rfl, hnever, hescapes⟩
  · rcases cases_of_shows (shows_comeBack hreturns) (endures_comeBack hreturns) hw₂ with
      ⟨halt, w', hback, hescapes⟩ | ⟨answer?, w₃, hback, hw₃, -⟩
    · rw [bind_of_error hback]
      exact ⟨.startled (.returning hacted hreturns hback),
        Escapes.of_precedes (hw₁.trans hw₂) hescapes⟩
    rw [bind_of_ok hback]
    cases answer? with
    | none => exact course_of_leaving (.after hacted hback) (hw₁.trans hw₃)
    | some answer =>
        obtain ⟨hcourse, hends⟩ := hrest w₃ hw₃
        exact ⟨.again hacted hback hcourse, hends.of_precedes (hw₁.trans hw₃)⟩
  · rw [bind_of_error (comeBack_of_not_returns hnever w₂)]
    exact ⟨.escaped hacted hnever, Escapes.of_precedes hw₁ hescapes⟩

/-- As long as there are more rounds than answers, the loop goes through a course. -/
theorem course_of_loop (rounds : Nat) (connected : Bool) (hs : s.Usable w) (hw : w.Sound)
    (hrounds : w.answers.length < rounds) :
    Course s connected w (loop s rounds connected w).1 (loop s rounds connected w).2 ∧
      Ends w (loop s rounds connected w).1 := by
  induction rounds generalizing w connected with
  | zero => exact absurd hrounds (Nat.not_lt_zero _)
  | succ rounds ih =>
      rw [loop_succ]
      rcases cases_of_shows (shows_offer s) (endures_offer s) (precedes_self hw) with
        ⟨halt, w', hoffer, hescapes⟩ | ⟨choice?, w₁, hoffer, hw₁, -⟩
      · rw [bind_of_error hoffer]
        exact ⟨.startled (.offering hoffer), hescapes⟩
      rw [bind_of_ok hoffer]
      cases choice? with
      | none => exact course_of_leaving (.unchosen hoffer) hw₁
      | some choice =>
          dsimp only
          split
          · rename_i hquit
            subst hquit
            exact course_of_leaving (.quit hoffer) hw₁
          rename_i hchoice
          -- the choice has taken an answer, so what comes next is seen from where it was made
          have hs₁ := hs.of_precedes hw₁
          rcases carryOut_cases hs₁ connected choice (precedes_self hw₁.sound_after) with
            ⟨w', hcarried, halarm⟩ | ⟨outcome, w₂, hcarried, hw₂, hwithin⟩
          · rw [bind_of_error hcarried]
            exact ⟨.startled (.acting hoffer hcarried), Escapes.of_precedes hw₁ (.startled halarm)⟩
          rw [bind_of_ok hcarried]
          refine course_of_acted ⟨choice, w₁, hchoice, hoffer, hcarried⟩ hw₁ hw₂ hwithin
            fun w₃ hw₃ => ih true (hs₁.of_precedes hw₃) hw₃.sound_after ?_
          have hfewer := length_of_offered hoffer
          have hleft := hw₃.answers.length_le
          omega

/-- The menu survives whatever comes of an action that is over. It ends by itself only where it asks
or takes leave: at its first prompt, by the choice to quit, or at the prompt after an action.
Otherwise it ends only with what escapes an action or the menu's own writing: never, with the end of
the input at a prompt of an action, with a fault that is no error of the API, with a client that
cannot be built, with a text that cannot be rendered, or with an interrupt of what the menu itself
writes. -/
theorem run_course (hs : s.Usable w) (hw : w.Sound) :
    Course s false w (run s w).1 (run s w).2 ∧ Ends w (run s w).1 :=
  course_of_loop (w.answers.length + 1) false hs hw (Nat.lt_succ_self _)

/-- The usual settings can be used in a world in which everything names a host. -/
theorem usable_usual {w : World} (h : ∀ host, w.network.takesHost host = true) :
    Settings.Usable ⟨.usual, .null, .null, .null⟩ w :=
  ⟨rfl, ⟨_, rfl⟩, _, rfl, fun host _ => h host⟩

/-- A command that ends with an exit code of its own leads back to the menu. -/
theorem run_course_exec :
    let s : Settings := ⟨.usual, .null, .null, .null⟩
    let pod : Pod := ⟨some ⟨some "web", some "default", [], none, false⟩,
      some ⟨[⟨some "main", some "web:1", true, true⟩], 0⟩, some ⟨some "Running", none, [], []⟩⟩
    let status := Session.failureText (Session.causeText "\"3\"")
    let w := { World.empty with
      answers := [.pick 1, .typed "", .pick 5]
      cluster := { Cluster.empty with
        pods := [pod]
        listAnswers := fun _ => .ok [pod]
        streams := [⟨none, none, [], status, none, false⟩] } }
    s.Usable w ∧ w.Sound ∧ Session.exitCode status = .ok (some 3) ∧
      (run s w).1 = .ok () ∧ Course s false w (run s w).1 (run s w).2 ∧ Ends w (run s w).1 := by
  intro s pod status w
  have husable : s.Usable w := usable_usual fun _ => rfl
  have hcode : Session.exitCode status = .ok (some 3) := by decide +kernel
  have hreported : ∀ p ∈ [pod], p.Reported := by
    intro p hp
    cases List.mem_singleton.mp hp
    exact ⟨⟨rfl, rfl, rfl⟩, _, rfl, by decide⟩
  have hsound : w.Sound :=
    { ns := rfl
      pods := hreported
      listed := fun _ pods hpods => Except.ok.inj hpods ▸ hreported
      sessions := fun script h =>
        List.mem_singleton.mp h ▸ StreamScript.legible_of_exitCode hcode
      logDirectory := World.sound_empty.logDirectory }
  exact ⟨husable, hsound, hcode, by decide +kernel, run_course husable hsound⟩

/-- When the input ends at the prompt for the ports, so does the menu, and nothing is reported. -/
theorem run_input_ends_at_ports :
    let s : Settings := ⟨.usual, .null, .null, .null⟩
    let w := { World.empty with answers := [.pick 4, .endOfInput, .typed "", .pick 5] }
    s.Usable w ∧ w.Sound ∧ (run s w).1 = .error .endOfInput ∧
      (run s w).2.answers = [.typed "", .pick 5] := by
  intro s w
  refine ⟨usable_usual fun _ => rfl, ?_, by decide +kernel, by decide +kernel⟩
  exact { World.sound_empty with }

/-- On a console that is strict about tags, ports that look like a closing tag end the menu: they
are no ports, and the report that says so cannot be rendered. -/
example :
    let s : Settings := ⟨.usual, .null, .null, .null⟩
    let pod : Pod := ⟨some ⟨some "web", some "default", [], none, false⟩,
      some ⟨[⟨some "main", some "web:1", true, true⟩], 0⟩, some ⟨some "Running", none, [], []⟩⟩
    let w := { World.empty with
      markup := .strict
      answers := [.pick 4, .typed "[/x]", .typed "", .pick 5]
      cluster := { Cluster.empty with pods := [pod], listAnswers := fun _ => .ok [pod] } }
    (run s w).1 = .error (.unrendered "[red]❌ 主人，执行出错: 无效的端口: [/x][/red]") ∧
      (run s w).2.answers = [.typed "", .pick 5] := by
  decide +kernel

end Menu

end PodReach.Program
