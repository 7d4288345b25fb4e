import PodReach.Proofs.Program.Tasks
import PodReach.Proofs.World.Files

/-!
# One namespace for a whole run

A command line and the configuration settle in which namespace a run works: the one of the option if
it is not empty, else the configured one, else the client's own. No call of the run is about another
one, whatever is chosen at the prompts and whatever the cluster answers.
-/

namespace PodReach

open Run World

/-! ## The configuration -/

namespace Config

variable {format : Format}

theorem quiet_warnUnreadable (detail : String) : Keeps Quiet (warnUnreadable detail) :=
  quiet_warning _

theorem quiet_orHalt {α : Type} (outcome : Except Mistake α) : Keeps Quiet (orHalt outcome) := by
  cases outcome with
  | ok a => exact keeps_pure a
  | error mistake => exact keeps_throw _

theorem quiet_save (format : Format) (path : String) (config : Config) :
    Keeps Quiet (save format path config) := by
  intro w
  rw [save, bind_of_ok (get_apply w)]
  cases hwritten : w.write? path (written format config) with
  | none => exact .refl w
  | some w' =>
      obtain ⟨files, rfl⟩ := write?_eq_some hwritten
      exact quiet_of_same rfl rfl rfl rfl

theorem quiet_wizard (format : Format) : Keeps Quiet (wizard format) := by
  refine quiet_emptyLine.bind fun _ => (quiet_display rfl).bind fun _ => ?_
  refine quiet_emptyLine.bind fun _ => keeps_get.bind fun _ => keeps_get.bind fun _ => ?_
  refine (quiet_choose _ _ _).bind fun path => (quiet_ask _).bind fun ns => ?_
  have hnumber : Keeps Quiet (Console.askNumber "等待 Pod 就绪的最长时间 (秒)" 120 10 3600) :=
    (quiet_display rfl).bind fun _ => quiet_typedAnswer
  refine hnumber.bind fun typed => ?_
  split
  · exact keeps_throw _
  · refine (quiet_save _ _ _).bind fun _ => ?_
    refine (quiet_line "[green]" (by simp [toString]) (by decide)).bind fun _ => ?_
    refine (quiet_line "[dim]" (by simp) (by decide)).bind fun _ => ?_
    exact quiet_emptyLine.bind fun _ => keeps_pure _

theorem quiet_readFrom (format : Format) (path : String) : Keeps Quiet (readFrom format path) := by
  refine keeps_get.bind fun w => (quiet_orHalt _).bind fun value => ?_
  split
  · exact (quiet_orHalt _).bind fun _ => keeps_pure _
  · exact keeps_get.bind fun _ => (quiet_warnUnreadable _).bind fun _ => keeps_pure _

/-- Finding the settings asks the cluster nothing. -/
theorem quiet_load (format : Format) (asks : Bool) : Keeps Quiet (load format asks) := by
  have hexpanded (config : Config) :
      Keeps Quiet (do orHalt (config.expandPaths (← get).home)) :=
    keeps_get.bind fun _ => quiet_orHalt _
  refine keeps_get.bind fun w => ?_
  split
  · exact (quiet_readFrom format _).bind hexpanded
  · split
    · exact (quiet_wizard format).bind hexpanded
    · exact (keeps_pure usual).bind hexpanded

end Config

namespace Program

open CommandLine

variable {s : Settings} {globals : Globals} {w w' : World}

/-! ## Commands -/

/-- The exit code of a command is found without the cluster. -/
theorem uncalled_guarded (command : Run Int) (w : World) :
    Uncalled (command w).2 (guarded command w).2 := by
  rw [guarded_apply]
  rcases command w with ⟨halt | code, w'⟩
  · cases hshown : shown? halt with
    | none => simpa [hshown] using Uncalled.refl w'
    | some told =>
        simp only [hshown]
        have htold := told_endingIn told.1 told.2 w'
        revert htold
        generalize endingIn told.1 told.2 w' = ended
        rintro (written | written | hunrendered)
        · exact ⟨_, written, rfl⟩
        · exact ⟨_, written, rfl⟩
        · exact .refl w'
  · exact .refl w'

/-- All calls between two worlds that are about a namespace are about this one. -/
structure Confined (ns : Yaml) (w w' : World) : Prop where
  grew : w.Grew w'
  calls : ∀ call ∈ callsSince w w', ∀ named, call.ns? = some named → named = ns

theorem confined_of_uncalled {ns : Yaml} (h : Uncalled w w') : Confined ns w w' := by
  refine ⟨h.grew, ?_⟩
  rw [h.callsSince_eq_nil]
  exact nofun

/-- What is done beforehand without asking makes no difference. -/
theorem Confined.of_uncalled {ns : Yaml} {w₁ : World} (h : Confined ns w₁ w')
    (hbefore : Uncalled w w₁) : Confined ns w w' := by
  refine ⟨hbefore.grew.trans h.grew, ?_⟩
  rw [callsSince_of_uncalled hbefore h.grew]
  exact h.calls

/-- A task asks only about the namespace that the client falls back on. -/
theorem confined_guarded_perform (s : Settings) (task : Task) (w : World) :
    Confined (s.ns.orElse w.cluster.ns) w (guarded (perform s task) w).2 := by
  have hafter := uncalled_guarded (perform s task) w
  have hbefore : Uncalled w (w.noted [.connected s.ns s.context s.kubeconfig]) :=
    uncalled_noted w rfl
  cases hconfigured : w.cluster.unconfigured with
  | true =>
      rw [perform_of_unconfigured s task hconfigured] at hafter
      exact confined_of_uncalled (hbefore.trans hafter)
  | false =>
      have hconduct := (perform_conduct hconfigured s task).1.conduct
      have hconnected : Uncalled w (s.connected w) := hbefore
      refine Confined.of_uncalled ⟨hconduct.grew.trans hafter.grew, ?_⟩ hconnected
      rw [callsSince_uncalled hconduct.grew hafter]
      exact fun call hcall => (hconduct.allowed call hcall).ns

/-- The line of a command is read without the cluster. -/
theorem confined_runCommand (s : Settings) (name : Name) (args : List String) (w : World) :
    Confined (s.ns.orElse w.cluster.ns) w (runCommand s (some (name, args)) w).2 := by
  unfold runCommand
  cases hread : name.read args with
  | error error =>
      simp only [hread]
      exact confined_of_uncalled (.refl w)
  | ok reading =>
      cases reading with
      | help =>
          simp only [hread]
          exact confined_of_uncalled (.refl w)
      | asks task =>
          simp only [hread]
          rw [bind_pure_apply]
          exact confined_guarded_perform s task w

/-- Choosing a directory for the logs asks nothing. -/
theorem quiet_setLogDirectory (s : Settings) : Keeps Quiet s.setLogDirectory := by
  unfold Settings.setLogDirectory
  dsimp only
  split
  · refine keeps_get.bind fun w => ?_
    split
    · exact fun _ => quiet_of_same rfl rfl rfl rfl
    · exact keeps_throw _
  · exact keeps_pure _

/-- A command that comes after something that asks nothing asks about the same namespace. -/
theorem confined_after {first : Run Unit} (hfirst : Keeps Quiet first) (s : Settings) (name : Name)
    (args : List String) (w : World) : Confined (s.ns.orElse w.cluster.ns) w
      ((first >>= fun _ => runCommand s (some (name, args))) w).2 := by
  have hquiet := hfirst w
  rw [bind_apply]
  rcases hrun : first w with ⟨halt | _, w₁⟩ <;> rw [hrun] at hquiet
  · exact confined_of_uncalled hquiet.uncalled
  · have hconfined := confined_runCommand s name args w₁
    rw [hquiet.cluster] at hconfined
    exact hconfined.of_uncalled hquiet.uncalled

/-- Ending a run asks nothing. -/
theorem concluded_world (action : Run Ending) (w : World) :
    (concluded action w).2 = (action w).2 := by
  unfold concluded
  rw [bind_of_ok (attempt_apply action w)]
  cases (action w).1 <;> rfl

/-! ## Runs -/

/-- The namespace of a run: that of the option if it is not empty, else the configured one, else the
client's own. -/
def namespaceOf (globals : Globals) (config : Config) (own : Yaml) : Yaml :=
  match Text.nonempty globals.ns with
  | some name => .text name
  | none => (config.value "namespace").orElse own

theorem make_ns_orElse (globals : Globals) (config : Config) (own : Yaml) :
    (Settings.make globals config).ns.orElse own = namespaceOf globals config own := by
  rcases hoption : globals.ns with _ | name
  · simp [Settings.make, Settings.optionOr, namespaceOf, Text.nonempty, hoption]
  · by_cases hempty : name = ""
    · simp [Settings.make, Settings.optionOr, namespaceOf, Text.nonempty, hoption, hempty]
    · simp [Settings.make, Settings.optionOr, namespaceOf, Text.nonempty, hoption, hempty,
        Yaml.orElse, Yaml.truthy]

/-- A run of a command asks only about one namespace, which the command line and the configuration
settle before anything is asked. -/
theorem run_confined (format : Config.Format) (asks : Bool) (w : World) {args rest : List String}
    {globals : Globals} {name : String}
    (hargs : readGlobals args = .ok (.asks (globals, name :: rest))) :
    ∀ call ∈ callsSince w (run format asks args w).2, ∀ ns, call.ns? = some ns →
      ∃ config, (Config.load format asks w).1 = .ok config ∧
        ns = namespaceOf globals config w.cluster.ns := by
  have hload := Config.quiet_load format asks w
  have hsilent {w' : World} (h : Uncalled w w') : ∀ call ∈ callsSince w w', ∀ ns,
      call.ns? = some ns → ∃ config, (Config.load format asks w).1 = .ok config ∧
        ns = namespaceOf globals config w.cluster.ns := by
    rw [h.callsSince_eq_nil]
    exact nofun
  unfold run
  simp only [hargs]
  cases Name.ofText? name with
  | none =>
      exact hsilent (.refl w)
  | some known =>
      dsimp only
      unfold runWith
      rw [bind_of_ok (attempt_apply _ w)]
      rcases hloaded : Config.load format asks w with ⟨halt | config, w₁⟩ <;>
        rw [hloaded] at hload hsilent
      · exact hsilent hload.uncalled
      · have hconfined := confined_after (quiet_setLogDirectory (Settings.make globals config))
          (Settings.make globals config) known rest w₁
        rw [hload.cluster, make_ns_orElse, ← concluded_world] at hconfined
        dsimp only
        rw [bind_of_ok (get_apply w₁), bind_pure_apply]
        intro call hcall ns hns
        exact ⟨config, rfl, (hconfined.of_uncalled hload.uncalled).calls call hcall ns hns⟩

/-- A namespace is prepared that is neither the configured one nor that of the client. -/
theorem run_confined_init :
    let args := ["-n", "team", "init", "--pull-secret", "registry"]
    let globals : Globals := ⟨some "team", none, none⟩
    let w := { World.empty with
      cluster := { Cluster.empty with accounts := [⟨"default", "team", []⟩] } }
    let w' := (run Config.yamlFormat false args w).2
    readGlobals args = .ok (.asks (globals, ["init", "--pull-secret", "registry"])) ∧
      (callsSince w w').map Call.service? = [some .readNamespace, some .createNamespace,
        some .readBinding, some .readServiceAccount, some .patchServiceAccount] ∧
      ∀ call ∈ callsSince w w', ∀ ns, call.ns? = some ns →
        ∃ config, (Config.load Config.yamlFormat false w).1 = .ok config ∧
          ns = namespaceOf globals config w.cluster.ns := by
  intro args globals w w'
  have hargs : readGlobals args = .ok (.asks (globals, ["init", "--pull-secret", "registry"])) := by
    decide +kernel
  exact ⟨hargs, by decide +kernel, run_confined Config.yamlFormat false w hargs⟩

end Program

end PodReach
