import PodReach.Proofs.Command.GoingBack
import PodReach.Proofs.Program.Failure
import PodReach.Proofs.Session.ExitStatus
import PodReach.Proofs.Session.Turns
import PodReach.Proofs.Yaml.Keys

/-!
# Falling back to the plain shell

A shell that does not start is replaced by the plain one, once. Whatever is selected, whatever the
cluster answers and wherever the command fails, finding the target opens nothing, at most two
sessions follow, and the second one is held in the same container after the stream of the first
was closed. A session that fails is the last one, and the command fails with it; otherwise the exit
code of the command is that of its last session.
-/

namespace PodReach

open Run World Session

namespace Command

variable {command : List String} {shell : Yaml} {w : World} {sessions : List Held}

/-! ## The sessions of a command -/

/-- A run ends as its last session did, unless the farewell is interrupted. -/
structure EndsAfter (s : Held) (run : Except Halt (Option Int) × World) : Prop where
  idle : Quiet s.after run.2
  outcome : run.1 = s.outcome ∨ (∃ code, s.outcome = .ok code) ∧ ∃ halt, run.1 = .error halt

/-- The sessions of a command, from what came of finding its target up to its end. -/
inductive Course (command : List String) (shell : Yaml)
    (found : Except Halt (Option (Pod × Container)) × World)
    (run : Except Halt (Option Int) × World) : List Held → Prop
  /-- The command does not get as far as a session. -/
  | unheld (idle : Quiet found.2 run.2) (nothing : run.1 = .ok none ∨ ∃ halt, run.1 = .error halt) :
      Course command shell found run []
  /-- There is one session. -/
  | once (s : Held) (idle : Quiet found.2 s.before)
      (place : found.1 = .ok (some (s.pod, s.container)))
      (words : shellWords command shell = .ok s.words) (ends : EndsAfter s run) :
      Course command shell found run [s]
  /-- The first session does not start its shell, and the plain one takes its place. -/
  | twice (first second : Held) (code : Option Int) (idle : Quiet found.2 first.before)
      (again : second.before = first.after)
      (place : found.1 = .ok (some (first.pod, first.container)))
      (place' : found.1 = .ok (some (second.pod, second.container)))
      (words : shellWords command shell = .ok first.words) (missing : first.outcome = .ok code)
      (falls : fallsBack command shell code = true) (plain : second.words = [plainShell])
      (ends : EndsAfter second run) : Course command shell found run [first, second]

/-- The farewell after the last session. -/
theorem endsAfter_farewell (s : Held) {code : Option Int} (hok : s.outcome = .ok code)
    (name : String) : EndsAfter s (((do
      Console.line s!"\n[dim]主人，已退出容器 {name}[/dim]"
      return code) : Run (Option Int)) s.after) := by
  have hquiet : Keeps Quiet (Console.line s!"\n[dim]主人，已退出容器 {name}[/dim]") :=
    quiet_line "\n[dim]" (by simp [toString]) (by decide)
  refine ⟨(hquiet.bind fun _ => keeps_pure _) _, ?_⟩
  rw [bind_apply]
  rcases Console.line s!"\n[dim]主人，已退出容器 {name}[/dim]" s.after with ⟨halt | _, v⟩
  · exact Or.inr ⟨⟨code, hok⟩, halt, rfl⟩
  · exact Or.inl hok.symm

theorem course_shellIntoPod (selector : Selector) (command : List String) (shell : Yaml)
    (w : World) : ∃ sessions, Course command shell (resolveTarget selector true w)
      (shellIntoPod selector command shell w) sessions := by
  unfold shellIntoPod
  rcases hfound : resolveTarget selector true w with ⟨halt | _ | ⟨pod, container⟩, u⟩
  · rw [bind_of_error hfound]
    exact ⟨[], .unheld (.refl u) (Or.inr ⟨halt, rfl⟩)⟩
  · rw [bind_of_ok hfound]
    exact ⟨[], .unheld (.refl u) (Or.inl rfl)⟩
  rw [bind_of_ok hfound]
  dsimp only
  cases hwords : shellWords command shell with
  | error halt =>
      rw [bind_of_error (ofExcept_apply _ u)]
      exact ⟨[], .unheld (.refl u) (Or.inr ⟨halt, rfl⟩)⟩
  | ok words =>
      rw [bind_of_ok (ofExcept_apply _ u)]
      have hquiet (shown : String) :
          Keeps Quiet (Console.line s!"[dim]命令: {shown} | 输入 exit 退出容器[/dim]\n") :=
        quiet_line "[dim]" (by simp [toString]) (by decide)
      have hidle := hquiet (" ".intercalate words) u
      rcases hshown : Console.line _ u with ⟨halt | _, v⟩ <;> rw [hshown] at hidle
      · rw [bind_of_error hshown]
        exact ⟨[], .unheld hidle (Or.inr ⟨halt, rfl⟩)⟩
      rw [bind_of_ok hshown]
      rcases hfirst : attach pod container (some words) v with ⟨halt | code, v'⟩
      · refine ⟨_, .once ⟨pod, container, words, v, _, v', hfirst⟩ hidle rfl hwords ?_⟩
        rw [bind_of_error hfirst]
        exact ⟨.refl v', Or.inl rfl⟩
      rw [bind_of_ok hfirst]
      split_ifs with hfalls
      · rcases hsecond : attach pod container (some [plainShell]) v' with ⟨halt | last, v''⟩
        · refine ⟨_, .twice ⟨pod, container, words, v, _, v', hfirst⟩
            ⟨pod, container, [plainShell], v', _, v'', hsecond⟩ code hidle rfl rfl rfl hwords rfl
            hfalls rfl ?_⟩
          rw [bind_of_error hsecond]
          exact ⟨.refl v'', Or.inl rfl⟩
        · refine ⟨_, .twice ⟨pod, container, words, v, _, v', hfirst⟩
            ⟨pod, container, [plainShell], v', _, v'', hsecond⟩ code hidle rfl rfl rfl hwords rfl
            hfalls rfl ?_⟩
          rw [bind_of_ok hsecond]
          exact endsAfter_farewell _ rfl _
      · refine ⟨_, .once ⟨pod, container, words, v, _, v', hfirst⟩ hidle rfl hwords ?_⟩
        exact endsAfter_farewell _ rfl _

/-! ## What follows from their course -/

theorem fallsBack_iff {code : Option Int} :
    fallsBack command shell code = true ↔
      command = [] ∧ shell = .text usualShell ∧ (code = some 126 ∨ code = some 127) := by
  have hsame : Yaml.same shell (.text usualShell) = true ↔ shell = .text usualShell :=
    ⟨Yaml.eq_text_of_same, fun h => by rw [h]; rfl⟩
  simp only [fallsBack, shellMissing, Bool.and_eq_true, hsame, List.isEmpty_iff, Bool.or_eq_true,
    beq_iff_eq]
  tauto

/-- The exit code of the last session, if there is one. -/
def lastCode (sessions : List Held) : Option Int :=
  sessions.getLast?.bind fun s => match s.outcome with
    | .ok code => code
    | .error _ => none

namespace Course

variable {found : Except Halt (Option (Pod × Container)) × World}
  {run : Except Halt (Option Int) × World}

theorem inTurn (h : Course command shell found run sessions) : InTurn found.2 sessions run.2 := by
  cases h with
  | unheld idle => exact .done idle
  | once s idle _ _ ends => exact .next s idle (.done ends.idle)
  | twice first second _ idle again _ _ _ _ _ _ ends =>
      exact .next first idle (.next second (again ▸ .refl _) (.done ends.idle))

theorem place (h : Course command shell found run sessions) :
    ∀ s ∈ sessions, found.1 = .ok (some (s.pod, s.container)) := by
  cases h with
  | unheld => simp
  | once s _ place => simpa using place
  | twice first second _ _ _ place place' => simpa using ⟨place, place'⟩

theorem first_words (h : Course command shell found run sessions) :
    ∀ s ∈ sessions.head?, shellWords command shell = .ok s.words := by
  cases h with
  | unheld => simp
  | once s _ _ words => simpa using words
  | twice first second _ _ _ _ _ words => simpa using words

theorem length_le (h : Course command shell found run sessions) : sessions.length ≤ 2 := by
  cases h <;> simp

theorem second (h : Course command shell found run sessions) (first second : Held)
    (hsessions : sessions = [first, second]) :
    command = [] ∧ shell = .text usualShell ∧
      (first.outcome = .ok (some 126) ∨ first.outcome = .ok (some 127)) ∧
      second.words = [plainShell] := by
  cases h with
  | unheld => cases hsessions
  | once => cases hsessions
  | twice first' second' code _ _ _ _ _ missing falls plain =>
      cases hsessions
      obtain ⟨hcommand, hshell, hcode⟩ := fallsBack_iff.mp falls
      refine ⟨hcommand, hshell, ?_, plain⟩
      rw [missing]
      exact hcode.imp (congrArg Except.ok) (congrArg Except.ok)

/-- Only the last session may be without a result. -/
theorem ok_of_mem_dropLast (h : Course command shell found run sessions) :
    ∀ s ∈ sessions.dropLast, ∃ code, s.outcome = .ok code := by
  cases h with
  | unheld => simp
  | once => simp
  | twice first second code _ _ _ _ _ missing => simpa using ⟨code, missing⟩

/-- A session that fails is the last one, and the command fails with it. -/
theorem failure (h : Course command shell found run sessions) :
    ∀ s ∈ sessions, ∀ halt, s.outcome = .error halt →
      sessions.getLast? = some s ∧ run.1 = .error halt := by
  have hends {s : Held} {halt : Halt} (ends : EndsAfter s run) (hhalt : s.outcome = .error halt) :
      run.1 = .error halt := by
    rcases ends.outcome with hrun | ⟨⟨code, hcode⟩, -⟩
    · exact hrun.trans hhalt
    · cases hcode.symm.trans hhalt
  cases h with
  | unheld => simp
  | once s _ _ _ ends =>
      intro t ht halt hhalt
      obtain rfl := List.mem_singleton.mp ht
      exact ⟨rfl, hends ends hhalt⟩
  | twice first second code _ _ _ _ _ missing _ _ ends =>
      intro t ht halt hhalt
      rcases List.mem_pair.mp ht with rfl | rfl
      · cases missing.symm.trans hhalt
      · exact ⟨rfl, hends ends hhalt⟩

/-- The result of a command is that of its last session. -/
theorem result (h : Course command shell found run sessions) (code : Option Int)
    (hcode : run.1 = .ok code) : code = lastCode sessions := by
  have hends {s : Held} (ends : EndsAfter s run) : s.outcome = .ok code := by
    rcases ends.outcome with hrun | ⟨-, halt, hhalt⟩
    · exact hrun.symm.trans hcode
    · cases hcode.symm.trans hhalt
  cases h with
  | unheld _ nothing =>
      rcases nothing with hnone | ⟨halt, hhalt⟩
      · exact Except.ok.inj (hcode.symm.trans hnone)
      · cases hcode.symm.trans hhalt
  | once s _ _ _ ends => simp [lastCode, hends ends]
  | twice first second _ _ _ _ _ _ _ _ _ ends => simp [lastCode, hends ends]

end Course

/-- Whether a call asks for a stream. -/
def asksStream (call : Call) : Bool := call.service? == some .openStream

theorem service?_ne_of_unopened {call : Call} (h : (Entry.call call).opens = false) :
    call.service? ≠ some .openStream := by
  cases call <;> simp_all [Entry.opens, Call.service?]

/-- Where nothing is opened, no stream is asked for. -/
theorem countP_unopened {entries : List Entry} (h : ∀ entry ∈ entries, entry.opens = false) :
    (entries.filterMap Entry.clusterCall?).countP asksStream = 0 := by
  rw [List.countP_eq_zero]
  intro call hcall
  obtain ⟨entry, hentry, hshown⟩ := List.mem_filterMap.mp hcall
  cases entry with
  | call asked =>
      have hsame : asked = call := by
        simp only [Entry.clusterCall?, Option.ite_none_right_eq_some] at hshown
        exact Option.some.inj hshown.2
      have hclosed := service?_ne_of_unopened (h _ hentry)
      simpa [asksStream, ← hsame] using hclosed
  | _ => cases hshown

/-- A session asks for one stream at most. -/
theorem countP_calls_le (sessions : List Held) :
    (sessions.flatMap Held.calls).countP asksStream ≤ sessions.length := by
  induction sessions with
  | nil => exact le_rfl
  | cons s rest ih =>
      have hcount : s.calls.countP asksStream ≤ 1 := List.countP_le_length.trans s.length_calls
      rw [List.flatMap_cons, List.countP_append, List.length_cons]
      omega

/-- What is known of a command that runs a shell or a given command, from the world in which it
begins, with the sessions that it holds. -/
structure ShellRun (selector : Selector) (command : List String) (shell : Yaml) (w : World)
    (sessions : List Held) : Prop where
  /-- Finding the target opens nothing. -/
  unopened : ∀ entry ∈ entriesSince w (resolveTarget selector true w).2, entry.opens = false
  /-- Then the sessions are held in turn, all of them in the container that was found. -/
  inTurn : InTurn (resolveTarget selector true w).2 sessions
    (shellIntoPod selector command shell w).2
  place : ∀ s ∈ sessions, (resolveTarget selector true w).1 = .ok (some (s.pod, s.container))
  /-- A session asks for its stream in the same namespace as any other; without a stream it
  fails. -/
  streams : ∀ s ∈ sessions, (s.calls = [] ∧ ∃ halt, s.outcome = .error halt) ∨
    ∃ metadata tty, s.pod.metadata = some metadata ∧ s.calls = [streamCall metadata
      (resolveTarget selector true w).2.cluster.ns s.container (some s.words) tty]
  /-- Apart from the streams, nothing is asked once the target was found. -/
  calls : callsSince (resolveTarget selector true w).2 (shellIntoPod selector command shell w).2 =
    sessions.flatMap Held.calls
  /-- At most two streams are opened, and the second one after the first was closed. -/
  opened : (callsSince w (shellIntoPod selector command shell w).2).countP asksStream ≤ 2
  takesTurns : TakesTurns (entriesSince w (shellIntoPod selector command shell w).2)
  /-- The first session runs what was asked for. There is at most one after it, and only because
  the usual shell was missing: it runs the plain one. -/
  first : ∀ s ∈ sessions.head?, shellWords command shell = .ok s.words
  length_le : sessions.length ≤ 2
  second : ∀ first second, sessions = [first, second] →
    command = [] ∧ shell = .text "/bin/bash" ∧
      (first.outcome = .ok (some 126) ∨ first.outcome = .ok (some 127)) ∧
      second.words = ["/bin/sh"]
  /-- A session that fails is the last one, and the command fails with it. -/
  failure : ∀ s ∈ sessions, ∀ halt, s.outcome = .error halt →
    sessions.getLast? = some s ∧ (shellIntoPod selector command shell w).1 = .error halt
  /-- The result of the command is that of the last session. -/
  result : ∀ code, (shellIntoPod selector command shell w).1 = .ok code → code = lastCode sessions

theorem Course.shellRun {selector : Selector}
    (h : Course command shell (resolveTarget selector true w)
      (shellIntoPod selector command shell w) sessions) :
    ShellRun selector command shell w sessions := by
  obtain ⟨finding, hfinding, hunopened⟩ := resolveTarget_opens_nothing selector true w
  obtain ⟨holding, hholding⟩ := h.inTurn.grew
  have hgrown : w.Grew (resolveTarget selector true w).2 := ⟨finding, hfinding.symm⟩
  have hnostream : ∀ call, .call call ∈ finding → call.service? ≠ some .openStream :=
    fun call hcall => service?_ne_of_unopened (hunopened _ hcall)
  have hcalls := h.inTurn.calls_eq
  refine ⟨?_, h.inTurn, h.place, h.inTurn.streams, hcalls, ?_, ?_, h.first_words, h.length_le,
    h.second, h.failure, h.result⟩
  · rw [entriesSince_eq hfinding]
    exact hunopened
  · have hheld : holding.filterMap Entry.clusterCall? = sessions.flatMap Held.calls := by
      rw [← hcalls, callsSince, entriesSince_eq hholding.symm]
    rw [callsSince_append hgrown hholding.symm, callsSince, entriesSince_eq hfinding,
      List.countP_append, countP_unopened hunopened, hheld, Nat.zero_add]
    exact (countP_calls_le sessions).trans h.length_le
  · have hturns := h.inTurn.takesTurns h.ok_of_mem_dropLast
    rw [entriesSince_append hgrown hholding.symm, entriesSince_eq hfinding]
    rw [entriesSince_eq hholding.symm] at hturns
    exact hturns.prepend hnostream

end Command

namespace Program

open Command

/-- **Falling back to the plain shell.** For every selector, command and shell, from every world,
running a command or a shell finds its target without opening anything and then holds at most two
sessions in turn. The second one comes only after a usual shell that was to be run without a command
turned out to be missing: it runs the plain shell in the same container, with nothing asked in
between, and once the first stream was closed. A session that fails is the last one, and its failure
is that of the run. Without a failure the exit code is the code of the last session, or zero if that
has none or there was no session. -/
theorem shell_fallback_law (command : List String) (w : World) :
    (∀ selector shell, ∃ sessions, ShellRun selector command shell w sessions) ∧
    ∀ (s : Settings) args selection code,
      CommandLine.Name.exec.read args = .ok (.asks (.exec selection command)) →
      (perform s (.exec selection command) w).1 = .ok code →
      (∃ selector v sessions, prepare s selection w = (.ok selector, v) ∧
        ShellRun selector command (s.config.value "default_shell") v sessions ∧
        code = (lastCode sessions).getD 0) ∧
      (runCommand s (some (.exec, args)) w).1 = .ok (.exit code) := by
  have hrun (selector : Selector) (shell : Yaml) (v : World) :
      ∃ sessions, ShellRun selector command shell v sessions :=
    (course_shellIntoPod selector command shell v).imp fun _ => Course.shellRun
  refine ⟨fun selector shell => hrun selector shell w, ?_⟩
  intro s args selection code hread hcode
  constructor
  · obtain ⟨selector, v, hprepared, hperformed⟩ := bind_eq_ok (Prod.ext hcode rfl)
    obtain ⟨sessions, hsessions⟩ := hrun selector (s.config.value "default_shell") v
    obtain ⟨last, v', hlast, hdone⟩ := bind_eq_ok hperformed
    refine ⟨selector, v, sessions, hprepared, hsessions, ?_⟩
    rw [← hsessions.result last (congrArg Prod.fst hlast)]
    exact (Except.ok.inj (congrArg Prod.fst hdone)).symm
  · unfold runCommand
    dsimp only
    rw [hread]
    dsimp only
    rw [bind_pure_apply, guarded_of_ok hcode, hcode]
    rfl

/-- The only pod that runs has no usual shell: the plain one is run in it, and its exit code is that
of the command. -/
theorem shell_fallback_without_bash :
    let pod : Pod :=
      { metadata := some ⟨some "web-0", some "default", [], none, false⟩
        spec := some ⟨[⟨some "main", some "web:1", false, false⟩], 0⟩
        status := some ⟨some "Running", none, [], []⟩ }
    let ending (code : String) : StreamScript :=
      { StreamScript.silent with status := failureText (causeText code) }
    let w := { World.empty with
      cluster := { Cluster.empty with
        pods := [pod]
        listAnswers := fun _ => .ok [pod]
        streams := [ending "127", ending "3"] } }
    let s : Settings := ⟨.usual, .null, .null, .null⟩
    let run := perform s (.exec .none []) w
    (callsSince w run.2).countP asksStream = 2 ∧ run.1 = .ok 3 ∧
      (∃ selector v sessions, prepare s .none w = (.ok selector, v) ∧
        ShellRun selector [] (s.config.value "default_shell") v sessions ∧
        3 = (lastCode sessions).getD 0) ∧
      (runCommand s (some (.exec, [])) w).1 = .ok (.exit 3) := by
  intro pod ending w s run
  have hcode : run.1 = .ok 3 := by decide +kernel
  have hread : CommandLine.Name.exec.read [] = .ok (.asks (.exec .none [])) := rfl
  exact ⟨by decide +kernel, hcode, (shell_fallback_law [] w).2 s [] .none 3 hread hcode⟩

end Program

end PodReach
