import PodReach.Proofs.Config.Loading
import PodReach.Proofs.World.Files

/-!
# Settings that were asked for

Someone who is asked for the settings gets the same ones from then on, without being asked again.
What is written down leaves out the settings that are null, which the usual ones bring back, and it
is found at the place that was chosen, because nothing lay in any of the places before. Of the
format only this is needed, that what it writes for texts and whole numbers it reads again, in
whatever order.
-/

namespace PodReach.Config

open Run World

/-! ## What is asked for -/

/-- A format reads again what it writes for some entries; their order does not count. -/
def Format.Restores (format : Format) (entries : List (Yaml × Yaml)) : Prop :=
  ∃ again, format.read (format.write entries) = .ok (.map again) ∧ again.Perm entries

/-- The namespace that was typed: none if there are only blanks. -/
def typedNs? (typed : String) : Option String :=
  Text.nonempty (some (Text.strip typed))

/-- The settings that someone chose. -/
def chosen (ns : Option String) (wait : Int) : Config :=
  ⟨[(.text "namespace", .ofText? ns),
    (.text "kube_context", .null),
    (.text "kubeconfig", .null),
    (.text "max_wait", .integer wait),
    (.text "default_shell", .text "/bin/bash"),
    (.text "default_log_lines", .integer 100),
    (.text "log_dir", .text "./.devkube/logs"),
    (.text "port_forward_address", .text "localhost")]⟩

/-- What is written down of the settings that someone chose. -/
def plainOf (ns : Option String) (wait : Int) : Plain :=
  (ns.toList.map fun s => ("namespace", .inl s)) ++
    [("max_wait", .inr wait),
      ("default_shell", .inl "/bin/bash"),
      ("default_log_lines", .inr 100),
      ("log_dir", .inl "./.devkube/logs"),
      ("port_forward_address", .inl "localhost")]

variable {format : Format} {w w' w'' : World} {config : Config} {ns : Option String} {wait : Int}
  {path typed number : String} {again : List (Yaml × Yaml)}

theorem put_typed (typed : String) (wait : Int) :
    (if (Text.strip typed).isEmpty then usual
      else usual.put "namespace" (.text (Text.strip typed))).put "max_wait" (.integer wait) =
    chosen (typedNs? typed) wait := by
  unfold typedNs? Text.nonempty
  dsimp only
  split_ifs <;> rfl

theorem written_chosen (format : Format) (ns : Option String) (wait : Int) :
    written format (chosen ns wait) = format.write (plainOf ns wait).entries := by
  cases ns <;> rfl

theorem nodup_plainOf (ns : Option String) (wait : Int) : ((plainOf ns wait).map (·.1)).Nodup := by
  cases ns <;> simp [plainOf]

theorem expandPaths_chosen (home : String) (ns : Option String) (wait : Int) :
    (chosen ns wait).expandPaths home = .ok (chosen ns wait) := by
  rfl

theorem known_of_plainOf {entry : Yaml × Yaml} (h : entry ∈ (plainOf ns wait).entries) :
    entry.1 ∈ usual.keys := by
  obtain ⟨⟨key, part⟩, hmem, rfl⟩ := List.mem_map.mp h
  simp only [plainOf, List.mem_append, List.mem_map, List.mem_cons, List.not_mem_nil, or_false,
    Prod.mk.injEq] at hmem
  rcases hmem with ⟨_, -, rfl, -⟩ | ⟨rfl, -⟩ | ⟨rfl, -⟩ | ⟨rfl, -⟩ | ⟨rfl, -⟩ | ⟨rfl, -⟩ <;>
    simp [keys, usual]

/-- A setting that someone chose is written down, or it is the usual one and left out. -/
theorem written_or_left {entry : Yaml × Yaml} (h : entry ∈ (chosen ns wait).entries) :
    entry ∈ (plainOf ns wait).entries ∨
      entry ∈ usual.entries ∧ entry.1 ∉ (plainOf ns wait).entries.map (·.1) := by
  simp only [chosen, List.mem_cons, List.not_mem_nil, or_false] at h
  rcases h with rfl | rfl | rfl | rfl | rfl | rfl | rfl | rfl <;> cases ns <;>
    simp [plainOf, Plain.entries, Plain.value, usual, Yaml.ofText?]

/-- What was left out comes back from the usual settings. -/
theorem merge_plainOf (h : again.Perm (plainOf ns wait).entries) :
    usual.merge again = chosen ns wait := by
  have htexts (entry) (hentry : entry ∈ again) :=
    (plainOf ns wait).exists_text entry (h.mem_iff.mp hentry)
  have hnodup : (again.map (·.1)).Nodup :=
    (h.map (·.1)).nodup_iff.mpr (Plain.nodup_entries (nodup_plainOf ns wait))
  have hapart := Yaml.apart_of_texts htexts hnodup
  have hkeys : (usual.merge again).keys = usual.keys := by
    refine keys_merge_of_known fun entry hentry => ?_
    obtain ⟨name, hname⟩ := htexts entry hentry
    exact ⟨name, hname, hname ▸ known_of_plainOf (h.mem_iff.mp hentry)⟩
  refine congrArg Config.mk (Yaml.eq_of_keys_eq ?_ ?_ fun entry hentry => ?_).symm
  · exact hkeys.symm
  · simp
  · rcases written_or_left hentry with hwritten | ⟨husual, hleft⟩
    · exact mem_merge_of_given (distinguishes_usual again) hapart (h.mem_iff.mpr hwritten)
    · exact mem_merge_usual husual fun hgiven => hleft ((h.map (·.1)).mem_iff.mp hgiven)

/-! ## Where it is found -/

theorem directoryPath_of_samePlaces (h : SamePlaces w w') : directoryPath w' = directoryPath w := by
  rw [directoryPath, directoryPath, h.directory]

theorem homePath_of_samePlaces (h : SamePlaces w w') : homePath w' = homePath w := by
  rw [homePath, homePath, h.home]

theorem candidates_of_samePlaces (h : SamePlaces w w') : candidates w' = candidates w := by
  rw [candidates, candidates, directoryPath_of_samePlaces h, homePath_of_samePlaces h,
    h.settingsPath]

theorem find?_of_samePlaces (h : SamePlaces w w') : find? w' = find? w := by
  have hexists : w'.existsAt = w.existsAt := by
    funext path
    rw [existsAt, existsAt, h.fileAt?_eq]
  rw [find?, find?, candidates_of_samePlaces h, hexists]

/-- Where no settings lie, none of the places leads to a file. -/
theorem fileAt?_of_find?_eq_none (h : find? w = none) (hpath : path ∈ candidates w) :
    w.fileAt? path = none := by
  have habsent := List.find?_eq_none.mp h path hpath
  simpa [existsAt] using habsent

/-- Settings that were written to one of the places lie there. -/
theorem fileAt?_written {text : String} (hfind : find? w = none) (hpath : path ∈ candidates w)
    (hwrite : w.write? path text = some w') : w'.fileAt? path = some (.file text) := by
  obtain ⟨place, hplace⟩ := exists_placeOf?_of_write? hwrite
  rw [fileAt?_write? hplace (fileAt?_of_find?_eq_none hfind hpath) hwrite, if_pos hplace]

/-- They are found, at the first path that leads there. -/
theorem find?_write? {text : String} (hfind : find? w = none) (hpath : path ∈ candidates w)
    (hwrite : w.write? path text = some w') :
    ∃ found, find? w' = some found ∧ w'.fileAt? found = some (.file text) := by
  obtain ⟨place, hplace⟩ := exists_placeOf?_of_write? hwrite
  have hafter := fileAt?_write? hplace (fileAt?_of_find?_eq_none hfind hpath) hwrite
  obtain ⟨files, hsame⟩ := write?_eq_some hwrite
  have hcandidates : candidates w' = candidates w := by
    rw [hsame]
    rfl
  have hsome : (find? w').isSome = true := by
    rw [find?, hcandidates, List.find?_isSome]
    exact ⟨path, hpath, by rw [existsAt, fileAt?_written hfind hpath hwrite]; rfl⟩
  obtain ⟨found, hfound⟩ := Option.isSome_iff_exists.mp hsome
  refine ⟨found, hfound, ?_⟩
  have hexists : w'.existsAt found = true := List.find?_some hfound
  have hmem := List.mem_of_find?_eq_some hfound
  rw [existsAt, hafter] at hexists
  rw [hafter]
  split_ifs at hexists ⊢ with hleads
  · rfl
  · rw [fileAt?_of_find?_eq_none hfind (hcandidates ▸ hmem)] at hexists
    cases hexists

/-! ## Asking -/

/-- What is chosen is one of the choices. -/
theorem mem_of_choose {α : Type} {message : String} {choices : List (String × α)}
    {preset : Option String} {value : α}
    (h : Console.choose message choices preset w = (.ok value, w')) :
    value ∈ choices.map (·.2) := by
  rw [Console.choose_apply] at h
  have hpicked := (Prod.mk.inj h).1
  rcases htaken : Console.taken w.answers with halt | answer
  · simp [htaken, Except.bind] at hpicked
  · cases answer with
    | pick index =>
        cases hchoice : choices[index]? with
        | none => simp [htaken, Except.bind, Console.picked, hchoice] at hpicked
        | some choice =>
            obtain rfl : choice.2 = value := by
              simpa [htaken, Except.bind, Console.picked, hchoice] using hpicked
            exact List.mem_map_of_mem (List.mem_of_getElem? hchoice)
    | _ => simp [htaken, Except.bind, Console.picked] at hpicked

theorem save_apply (format : Format) (path : String) (config : Config) (w : World) :
    save format path config w =
      match w.write? path (written format config) with
      | some w' => (.ok (), w')
      | none => (.error (.fault (.os "Permission denied")), w) := by
  unfold save
  rw [bind_of_ok (get_apply w)]
  cases w.write? path (written format config) <;> rfl

/-- Settings that were saved were written to the file. -/
theorem save_eq_ok (h : save format path config w = (.ok (), w')) :
    w.write? path (written format config) = some w' := by
  rw [save_apply] at h
  cases hwrite : w.write? path (written format config) with
  | none =>
      rw [hwrite] at h
      cases h
  | some saved =>
      rw [hwrite] at h
      cases h
      rfl

/-! ### The parts of asking -/

/-- What is said before the questions. -/
def greet : Run Unit := do
  Console.line ""
  Console.display (.panel greeting (some "🔧 初始化配置"))
  Console.line ""

/-- The questions: for a place, a namespace and a time. -/
def questions : Run (String × String × String) := do
  let here := directoryPath (← get)
  let home := homePath (← get)
  let path ← Console.choose "配置文件存放位置"
    [(s!"当前目录 ({here})", here), (s!"用户目录 ({home})", home)] (some here)
  let typed ← Console.ask "Kubernetes 命名空间 (留空使用 kubeconfig 中的设置)"
  let number ← Console.askNumber "等待 Pod 就绪的最长时间 (秒)" 120 10 3600
  return (path, typed, number)

/-- The line that says where the settings are. -/
def savedLine (path : String) : String := s!"[green]✅ 配置已保存: {path}[/green]"

/-- Save settings and say where they are. -/
def writeDown (format : Format) (path : String) (config : Config) : Run Config := do
  save format path config
  Console.line (savedLine path)
  Console.line "[dim]后续可直接编辑该文件修改配置[/dim]"
  Console.line ""
  return config

/-- What was answered is written down, if a time was. -/
theorem wizard_eq (format : Format) : wizard format = (do
    greet
    let (path, typed, number) ← questions
    (Text.readInteger? number).elim (throw (.mistake .badValue)) fun wait =>
      writeDown format path (chosen (typedNs? typed) wait)) := by
  simp only [wizard, greet, questions, writeDown, bind_assoc, pure_bind, put_typed]
  repeat refine bind_congr fun _ => ?_
  generalize Text.readInteger? _ = wait
  cases wait <;> rfl

/-! ### What was asked -/

theorem samePlaces_greet : Keeps SamePlaces greet :=
  (samePlaces_line _).bind fun _ => (samePlaces_record _).bind fun _ => samePlaces_line _

theorem questions_eq_ok (h : questions w = (.ok (path, typed, number), w')) :
    path ∈ [directoryPath w, homePath w] ∧ SamePlaces w w' := by
  unfold questions at h
  rw [bind_of_ok (get_apply w), bind_of_ok (get_apply w)] at h
  obtain ⟨_, w₁, h₁, h⟩ := bind_eq_ok h
  obtain ⟨_, w₂, h₂, h⟩ := bind_eq_ok h
  obtain ⟨_, w₃, h₃, h⟩ := bind_eq_ok h
  cases h
  refine ⟨by simpa only [List.map_cons, List.map_nil] using mem_of_choose h₁, ?_⟩
  exact ((samePlaces_choose _ _ _).of_run h₁).trans
    (((samePlaces_ask _).of_run h₂).trans ((samePlaces_askNumber _ _ _ _).of_run h₃))

theorem writeDown_eq_ok {kept : Config} (h : writeDown format path config w = (.ok kept, w')) :
    kept = config ∧
      ∃ saved, w.write? path (written format config) = some saved ∧ SamePlaces saved w' := by
  obtain ⟨_, saved, hsaved, h⟩ := bind_eq_ok h
  obtain ⟨_, w₁, h₁, h⟩ := bind_eq_ok h
  obtain ⟨_, w₂, h₂, h⟩ := bind_eq_ok h
  obtain ⟨_, w₃, h₃, h⟩ := bind_eq_ok h
  cases h
  exact ⟨rfl, saved, save_eq_ok hsaved, ((samePlaces_line _).of_run h₁).trans
    (((samePlaces_line _).of_run h₂).trans ((samePlaces_line _).of_run h₃))⟩

/-- Who was asked chose a place, a namespace and a time, and what was chosen was written down. -/
theorem wizard_eq_ok (h : wizard format w = (.ok config, w')) :
    ∃ path ns wait asked saved, path ∈ [directoryPath w, homePath w] ∧ config = chosen ns wait ∧
      SamePlaces w asked ∧
      asked.write? path (format.write (plainOf ns wait).entries) = some saved ∧
      SamePlaces saved w' := by
  rw [wizard_eq] at h
  obtain ⟨_, greeted, hgreet, h⟩ := bind_eq_ok h
  obtain ⟨⟨path, typed, number⟩, asked, hquestions, h⟩ := bind_eq_ok h
  have hgreeted := samePlaces_greet.of_run hgreet
  obtain ⟨hpath, hasked⟩ := questions_eq_ok hquestions
  rw [directoryPath_of_samePlaces hgreeted, homePath_of_samePlaces hgreeted] at hpath
  cases hnumber : Text.readInteger? number with
  | none =>
      simp only [hnumber, Option.elim_none] at h
      cases h
  | some wait =>
      simp only [hnumber, Option.elim_some] at h
      obtain ⟨rfl, saved, hwrite, hsaved⟩ := writeDown_eq_ok h
      rw [written_chosen] at hwrite
      exact ⟨path, _, wait, asked, saved, hpath, rfl, hgreeted.trans hasked, hwrite, hsaved⟩

/-! ### Answering -/

/-- Something was shown or asked without an interrupt, and these answers are left. -/
structure Asked (left : List Answer) (w w' : World) : Prop where
  places : SamePlaces w w'
  calm : w'.interruptOn = none
  answers : w'.answers = left
  markup : w'.markup = w.markup

variable {left between : List Answer} {index : Nat}

theorem Asked.trans (h : Asked between w w') (h' : Asked left w' w'') : Asked left w w'' :=
  ⟨h.places.trans h'.places, h'.calm, h'.answers, h'.markup.trans h.markup⟩

theorem asked_line {text : String} (hrenders : w.markup.renders text = true)
    (hcalm : w.interruptOn = none) :
    ∃ w', Console.line text w = (.ok (), w') ∧ Asked w.answers w w' :=
  ⟨_, line_of_calm hrenders hcalm, ⟨rfl, rfl, rfl, rfl⟩, hcalm, rfl, rfl⟩

theorem asked_choose {α : Type} {choices : List (String × α)} {choice : String × α}
    (message : String) (preset : Option String) (hcalm : w.interruptOn = none)
    (hanswers : w.answers = .pick index :: left) (hchoice : choices[index]? = some choice) :
    ∃ w', Console.choose message choices preset w = (.ok choice.2, w') ∧ Asked left w w' := by
  refine ⟨_, (Console.choose_apply _ _ _ w).trans (Prod.ext ?_ rfl), ⟨rfl, rfl, rfl, rfl⟩,
    hcalm, ?_, rfl⟩
  · simp [hanswers, Console.taken, Except.bind, Console.picked, hchoice]
  · simp [hanswers]

theorem asked_ask (message : String) (hcalm : w.interruptOn = none)
    (hanswers : w.answers = .typed typed :: left) :
    ∃ w', Console.ask message w = (.ok typed, w') ∧ Asked left w w' := by
  refine ⟨_, (Console.ask_apply _ w).trans (Prod.ext ?_ rfl), ⟨rfl, rfl, rfl, rfl⟩, hcalm, ?_, rfl⟩
  · simp [hanswers, Console.taken, Except.bind, Console.entered]
  · simp [hanswers]

theorem asked_askNumber (message : String) (preset low high : Int) (hcalm : w.interruptOn = none)
    (hanswers : w.answers = .typed number :: left) :
    ∃ w', Console.askNumber message preset low high w = (.ok number, w') ∧ Asked left w w' := by
  refine ⟨_, (Console.askNumber_apply _ _ _ _ w).trans (Prod.ext ?_ rfl), ⟨rfl, rfl, rfl, rfl⟩,
    hcalm, ?_, rfl⟩
  · simp [hanswers, Console.taken, Except.bind, Console.entered]
  · simp [hanswers]

theorem asked_greet (hcalm : w.interruptOn = none) :
    ∃ w', greet w = (.ok (), w') ∧ Asked w.answers w w' := by
  obtain ⟨w₁, h₁, ha₁⟩ := asked_line Markup.renders_empty hcalm
  let w₂ := w₁.noted [.display (.panel greeting (some "🔧 初始化配置"))]
  have ha₂ : Asked w₁.answers w₁ w₂ := ⟨⟨rfl, rfl, rfl, rfl⟩, ha₁.calm, rfl, rfl⟩
  obtain ⟨w₃, h₃, ha₃⟩ := asked_line (w := w₂) Markup.renders_empty ha₂.calm
  refine ⟨w₃, ?_, ha₁.trans (ha₂.trans (ha₁.answers ▸ ha₃))⟩
  unfold greet Console.display
  rw [bind_of_ok h₁, bind_of_ok (record_apply _ w₁), h₃]

theorem asked_questions (hcalm : w.interruptOn = none)
    (hanswers : w.answers = .pick index :: .typed typed :: .typed number :: left)
    (hpath : [directoryPath w, homePath w][index]? = some path) :
    ∃ w', questions w = (.ok (path, typed, number), w') ∧ Asked left w w' := by
  unfold questions
  rw [bind_of_ok (get_apply w), bind_of_ok (get_apply w)]
  -- The choices are kept folded: only their values count here.
  generalize hchoices : [(_, directoryPath w), (_, homePath w)] = choices
  obtain ⟨choice, hchoice, rfl⟩ : ∃ choice, choices[index]? = some choice ∧ choice.2 = path := by
    have hvalues : choices.map (·.2) = [directoryPath w, homePath w] := by
      simp only [← hchoices, List.map_cons, List.map_nil]
    rwa [← hvalues, List.getElem?_map, Option.map_eq_some_iff] at hpath
  obtain ⟨w₁, h₁, ha₁⟩ := asked_choose "配置文件存放位置" (some (directoryPath w)) hcalm hanswers
    hchoice
  obtain ⟨w₂, h₂, ha₂⟩ :=
    asked_ask "Kubernetes 命名空间 (留空使用 kubeconfig 中的设置)" ha₁.calm ha₁.answers
  obtain ⟨w₃, h₃, ha₃⟩ :=
    asked_askNumber "等待 Pod 就绪的最长时间 (秒)" 120 10 3600 ha₂.calm ha₂.answers
  refine ⟨w₃, ?_, ha₁.trans (ha₂.trans ha₃)⟩
  rw [bind_of_ok h₁, bind_of_ok h₂, bind_of_ok h₃]
  rfl

/-- How the saving of settings ends: with the settings, if it can be said where they are. -/
def savingEnd (w : World) (path : String) (config : Config) : Except Halt Config :=
  if w.markup.renders (savedLine path) then .ok config else .error (.unrendered (savedLine path))

/-- Settings can be written where nothing lies, if the place can be reached. -/
theorem writeDown_of_free (format : Format) (config : Config) (hcalm : w.interruptOn = none)
    (hplace : w.placeOf? path ≠ none) (hnothing : w.fileAt? path = none) :
    ∃ w', writeDown format path config w = (savingEnd w path config, w') ∧
      w'.answers = w.answers := by
  obtain ⟨place, hplace⟩ := Option.ne_none_iff_exists'.mp hplace
  obtain ⟨saved, hsaved⟩ := exists_write? (written format config) hplace hnothing
  obtain ⟨files, rfl⟩ := write?_eq_some hsaved
  have hsave : save format path config w = (.ok (), { w with files := files }) := by
    rw [save_apply, hsaved]
  unfold writeDown savingEnd
  cases hrenders : w.markup.renders (savedLine path) with
  | false =>
      have hline : Console.line (savedLine path) { w with files := files } =
          (.error (.unrendered (savedLine path)), { w with files := files }) :=
        line_of_unrendered hrenders
      refine ⟨{ w with files := files }, ?_, rfl⟩
      rw [bind_of_ok hsave, bind_of_error hline, if_neg Bool.false_ne_true]
  | true =>
      obtain ⟨w₁, h₁, ha₁⟩ := asked_line (w := { w with files := files }) hrenders hcalm
      have hdim : w₁.markup.renders "[dim]后续可直接编辑该文件修改配置[/dim]" = true :=
        Markup.renders_word (by decide : Markup.isWord "dim" = true)
          (by decide : Markup.isPlain "后续可直接编辑该文件修改配置" = true) (by decide)
      obtain ⟨w₂, h₂, ha₂⟩ := asked_line hdim ha₁.calm
      obtain ⟨w₃, h₃, ha₃⟩ := asked_line Markup.renders_empty ha₂.calm
      refine ⟨w₃, ?_, ha₃.answers.trans (ha₂.answers.trans ha₁.answers)⟩
      rw [bind_of_ok hsave, bind_of_ok h₁, bind_of_ok h₂, bind_of_ok h₃, if_pos rfl]
      rfl

/-- Whoever answers every question gets the settings that were chosen. -/
theorem wizard_of_answers (format : Format) (hcalm : w.interruptOn = none)
    (hplace : w.placeOf? path ≠ none) (hnothing : w.fileAt? path = none)
    (hanswers : w.answers = .pick index :: .typed typed :: .typed number :: left)
    (hpath : [directoryPath w, homePath w][index]? = some path)
    (hnumber : Text.readInteger? number = some wait) :
    ∃ w', wizard format w = (savingEnd w path (chosen (typedNs? typed) wait), w') ∧
      w'.answers = left := by
  obtain ⟨greeted, hgreet, hgreeted⟩ := asked_greet hcalm
  rw [← directoryPath_of_samePlaces hgreeted.places,
    ← homePath_of_samePlaces hgreeted.places] at hpath
  obtain ⟨asked, hquestions, hasked⟩ :=
    asked_questions hgreeted.calm (hgreeted.answers.trans hanswers) hpath
  have hplaces := hgreeted.places.trans hasked.places
  obtain ⟨w', hwrite, hleft⟩ := writeDown_of_free (w := asked) format
    (chosen (typedNs? typed) wait) hasked.calm (hplaces.placeOf?_eq ▸ hplace)
    (hplaces.fileAt?_eq ▸ hnothing)
  refine ⟨w', ?_, hleft.trans hasked.answers⟩
  rw [wizard_eq, bind_of_ok hgreet, bind_of_ok hquestions]
  simp only [hnumber, Option.elim_some]
  rw [hwrite, savingEnd, hasked.markup, hgreeted.markup, savingEnd]

/-! ## Asking once -/

theorem load_of_wizard (hfind : find? w = none) : load format true w =
    (do let config ← wizard format
        orHalt (config.expandPaths (← get).home) : Run Config) w := by
  unfold load
  rw [bind_of_ok (get_apply w)]
  dsimp only
  rw [hfind]
  rfl

theorem load_of_wizard_chosen (hfind : find? w = none)
    (h : wizard format w = (savingEnd w path (chosen ns wait), w')) :
    load format true w = (savingEnd w path (chosen ns wait), w') := by
  unfold savingEnd at h ⊢
  rw [load_of_wizard hfind]
  split_ifs at h ⊢
  · rw [bind_of_ok h, bind_of_ok (get_apply _), expandPaths_chosen]
    rfl
  · rw [bind_of_error h]

/-- What was written down is read again as what was chosen. -/
theorem load_of_written (hfind : find? w = some path)
    (hfile : w.fileAt? path = some (.file (format.write (plainOf ns wait).entries)))
    (hformat : format.Restores (plainOf ns wait).entries) (asks : Bool) :
    load format asks w = (.ok (chosen ns wait), w) := by
  obtain ⟨again, hread, hperm⟩ := hformat
  have hvalue : format.valueOf? (w.fileAt? path) = .ok (some (.map again)) := by
    simp [hfile, Format.valueOf?, Lying.read, hread]
  rw [load_of_value hfind hvalue (entriesOf_map again), merge_plainOf hperm, expandPaths_chosen]

/-- Someone who was asked for the settings is not asked again: from then on the settings are the
ones that were chosen, if the format reads what it wrote of them. Whoever answers every question
gets the settings that were answered, if the place that was chosen can be reached and its path can
be rendered. -/
theorem load_again (format : Format) (w : World) (hfind : find? w = none) :
    (∀ config w', load format true w = (.ok config, w') →
      ∃ path ns wait, config = chosen ns wait ∧ path ∈ [directoryPath w, homePath w] ∧
        w'.fileAt? path = some (.file (format.write (plainOf ns wait).entries)) ∧
        (format.Restores (plainOf ns wait).entries → ∀ later, SamePlaces w' later → ∀ asks,
          load format asks later = (.ok config, later))) ∧
    ∀ index path typed number wait rest, w.interruptOn = none →
      w.answers = .pick index :: .typed typed :: .typed number :: rest →
      [directoryPath w, homePath w][index]? = some path → w.placeOf? path ≠ none →
      Text.readInteger? number = some wait →
      ∃ w', load format true w = (savingEnd w path (chosen (typedNs? typed) wait), w') ∧
        w'.answers = rest := by
  constructor
  · intro config w' hload
    rw [load_of_wizard hfind] at hload
    obtain ⟨_, w₁, hwizard, hload⟩ := bind_eq_ok hload
    obtain ⟨path, ns, wait, asked, saved, hpath, rfl, hasked, hwrite, hsaved⟩ :=
      wizard_eq_ok hwizard
    rw [bind_of_ok (get_apply _), expandPaths_chosen] at hload
    cases hload
    have hnone := (find?_of_samePlaces hasked).trans hfind
    have hmem : path ∈ candidates asked := by
      rw [candidates_of_samePlaces hasked]
      exact List.mem_append_right _ hpath
    refine ⟨path, ns, wait, rfl, hpath, ?_, fun hformat later hlater => ?_⟩
    · rw [hsaved.fileAt?_eq, fileAt?_written hnone hmem hwrite]
    · obtain ⟨found, hfound, hfile⟩ := find?_write? hnone hmem hwrite
      have hplaces := hsaved.trans hlater
      exact load_of_written ((find?_of_samePlaces hplaces).trans hfound)
        (by rw [hplaces.fileAt?_eq, hfile]) hformat
  · intro index path typed number wait rest hcalm hanswers hpath hplace hnumber
    have hmem : path ∈ candidates w :=
      List.mem_append_right _ (List.mem_of_getElem? hpath)
    obtain ⟨w', hwizard, hrest⟩ := wizard_of_answers format hcalm hplace
      (fileAt?_of_find?_eq_none hfind hmem) hanswers hpath hnumber
    exact ⟨w', load_of_wizard_chosen hfind hwizard, hrest⟩

/-- Settings are written in the order of their names. -/
theorem inKeyOrder_settings (ns wait shell lines logs address : List Char) :
    Yaml.inKeyOrder [(.text "namespace", ns), (.text "max_wait", wait),
      (.text "default_shell", shell), (.text "default_log_lines", lines), (.text "log_dir", logs),
      (.text "port_forward_address", address)] = [lines, shell, logs, wait, ns, address] := by
  simp [Yaml.inKeyOrder, List.mergeSort, List.MergeSort.Internal.splitInTwo, Yaml.keyNumber?,
    Yaml.keyText, Yaml.shown, Yaml.isTextKey]

/-- A namespace that looks like a truth value, at the second of the places. -/
theorem load_again_home :
    let w := { World.empty with
      settingsPath := some "<CWD>/missing"
      answers := [.pick 1, .typed " on ", .typed "300"] }
    ∃ w', load yamlFormat true w = (.ok (chosen (some "on") 300), w') ∧
      ∀ asks, load yamlFormat asks w' = (.ok (chosen (some "on") 300), w') := by
  intro w
  have hfind : find? w = none := by decide +kernel
  have hformat : yamlFormat.Restores (plainOf (some "on") 300).entries := by
    let text := "default_log_lines: 100\ndefault_shell: /bin/bash\nlog_dir: ./.devkube/logs\n"
      ++ "max_wait: 300\nnamespace: 'on'\nport_forward_address: localhost\n"
    let plain : Plain := [("default_log_lines", .inr 100), ("default_shell", .inl "/bin/bash"),
      ("log_dir", .inl "./.devkube/logs"), ("max_wait", .inr 300), ("namespace", .inl "on"),
      ("port_forward_address", .inl "localhost")]
    have hwrite : Yaml.writeMapping (plainOf (some "on") 300).entries = text := by
      simp only [Yaml.writeMapping, Plain.entries, plainOf, Plain.value, Option.toList_some,
        List.map_cons, List.map_nil, List.cons_append, List.nil_append, Yaml.writeAt,
        Yaml.writeEntries]
      rewrite [inKeyOrder_settings]
      decide +kernel
    have hread : Plain.of? (Yaml.read text) = some plain := by decide +kernel
    have hperm : plain.Perm (plainOf (some "on") 300) := by decide
    refine ⟨plain.entries, ?_, hperm.map _⟩
    change Yaml.read (Yaml.writeMapping _) = _
    rw [hwrite, Plain.eq_of_of?_eq_some hread]
  obtain ⟨hagain, hanswered⟩ := load_again yamlFormat w hfind
  obtain ⟨w', hload, -⟩ := hanswered 1 (homePath w) " on " "300" 300 [] rfl rfl rfl
    (by decide +kernel) (by decide +kernel)
  have hns : typedNs? " on " = some "on" := by decide +kernel
  rw [hns] at hload
  obtain ⟨path, ns, wait, hsame, -, -, hlater⟩ := hagain _ w' hload
  obtain ⟨rfl, rfl⟩ : ns = some "on" ∧ wait = 300 := by
    cases ns <;> simp_all [chosen, Yaml.ofText?]
  exact ⟨w', hload, hlater hformat w' (.refl w')⟩

end PodReach.Config
