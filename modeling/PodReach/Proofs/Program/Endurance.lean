import PodReach.Program.Run
import PodReach.Proofs.Command.Endurance
import PodReach.Proofs.Forward.Addresses

/-!
# What can come of a task in a sound world

With settings that can be used, a task that can be done meets no mistake in a sound world: what it
is given has the right kinds, its search can count its budget down, and it listens only on what
names a host.
-/

namespace PodReach.Program

open Run CommandLine Forward

/-- Settings that can be used: the namespace can be looked up, the shell is a text, and so is the
address to listen on, which names hosts. -/
structure Settings.Usable (s : Settings) (w : World) : Prop where
  ns : s.ns.hashable = true
  shell : ∃ shell, s.config.value "default_shell" = .text shell
  address : ∃ address, s.config.value "port_forward_address" = .text address ∧
    ∀ host ∈ loopbacks address, w.network.takesHost host = true

/-- What a task selects, if it selects anything. -/
def selection? : Task → Option Selection
  | .attach selection | .exec selection _ | .logs selection _ _ | .portForward selection _ _
  | .wait selection => some selection
  | .pods _ _ | .init _ => none

/-- The addresses that a task is given to listen on. -/
def givenAddresses : Task → List String
  | .portForward _ _ addresses => addresses
  | _ => []

/-- A task that can be done: its search can count its budget down, and its addresses name hosts. -/
structure Doable (s : Settings) (task : Task) (w : World) : Prop where
  wait : ∀ selection, selection? task = some selection →
    ∃ budget, Budget.ofSetting (selection.waitOr (s.config.value "max_wait")) = .seconds budget
  hosts : ∀ address ∈ givenAddresses task, ∀ host ∈ loopbacks address,
    w.network.takesHost host = true

variable {s : Settings} {w₀ : World} {task : Task}

/-- Settings that can be used can be used later on. -/
theorem Settings.Usable.of_precedes {w : World} (h : s.Usable w₀) (hw : w₀.Precedes w) :
    s.Usable w :=
  ⟨h.ns, h.shell, hw.machine.takesHost ▸ h.address⟩

theorem endures_connect (hns : s.ns.hashable = true) :
    Endures w₀ (Tolerable w₀) Whatever s.connect := by
  refine (endures_record _).bind fun _ _ => endures_get.bind fun w hw => ?_
  dsimp only
  split
  · rename_i hunconfigured
    exact endures_throw (.unconfigured (hw.cluster.unconfigured ▸ hunconfigured))
  · refine Cluster.endures_update_ns fun c hc => ?_
    exact Yaml.hashable_orElse hns hc

theorem endures_prepare (hns : s.ns.hashable = true) {selection : Selection} {budget : Double}
    (hwait : Budget.ofSetting (selection.waitOr (s.config.value "max_wait")) = .seconds budget) :
    Endures w₀ (Tolerable w₀) Selector.Bounded (prepare s selection) := by
  have hselector (labels : String) : Selector.Bounded ⟨s.ns, labels, selection.images,
      selection.podName, selection.containerName,
      selection.waitOr (s.config.value "max_wait")⟩ :=
    Or.inr ⟨budget, hwait⟩
  refine (endures_connect hns).bind fun _ _ => ?_
  unfold Settings.select Selection.selector
  dsimp only
  split
  · exact (Setup.endures_deploymentSelector _ hns).bind fun _ _ => endures_pure (hselector _)
  · exact endures_pure (hselector _)

/-- The addresses of a task name hosts, and so does the one that is configured. -/
theorem takesHost_of_resolved {addresses : List String} (hgiven : addresses ≠ [])
    (h : ∀ address ∈ addresses, ∀ host ∈ loopbacks address, w₀.network.takesHost host = true) :
    ∀ host ∈ resolveAddresses addresses, w₀.network.takesHost host = true := by
  intro host hmem
  rw [(keepsFirst_resolveAddresses addresses).mem_iff, expansion, if_neg (by simpa using hgiven),
    List.mem_flatMap] at hmem
  obtain ⟨address, haddress, hhost⟩ := hmem
  exact h address haddress host hhost

/-- Whatever a task is, it comes to nothing that is not tolerable. -/
theorem endures_perform (hs : s.Usable w₀) (htask : Doable s task w₀) :
    Endures w₀ (Tolerable w₀) Whatever (perform s task) := by
  have hprepared {selection : Selection} (hselection : selection? task = some selection) :
      Endures w₀ (Tolerable w₀) Selector.Bounded (prepare s selection) := by
    obtain ⟨budget, hwait⟩ := htask.wait selection hselection
    exact endures_prepare hs.ns hwait
  cases task with
  | pods labels deployment =>
      refine (endures_connect hs.ns).bind fun _ _ => ?_
      exact (Command.endures_listPodsOf labels fun _ => hs.ns).bind fun _ _ => endures_pure trivial
  | attach selection =>
      refine (hprepared rfl).bind fun selector hbounded => ?_
      exact (Command.endures_attachToPod (Or.inr hbounded)).bind fun _ _ => endures_pure trivial
  | exec selection command =>
      refine (hprepared rfl).bind fun selector hbounded => ?_
      exact (Command.endures_shellIntoPod (Or.inr hbounded) command hs.shell).bind fun _ _ =>
        endures_pure trivial
  | logs selection follow tail =>
      refine (hprepared rfl).bind fun selector hbounded => ?_
      exact (Command.endures_viewLogs (Or.inr hbounded) follow _).bind fun _ _ =>
        endures_pure trivial
  | portForward selection ports addresses =>
      refine (hprepared rfl).bind fun selector hbounded => ?_
      obtain ⟨address, haddress, hhosts⟩ := hs.address
      have hforward {addresses : List String}
          (h : ∀ host ∈ resolveAddresses addresses, w₀.network.takesHost host = true) :
          Endures w₀ (Tolerable w₀) Whatever
            (Command.forwardPorts selector ports (addresses.map .text)) :=
        Command.endures_forwardPorts (Or.inr hbounded) ports h
      dsimp only
      split
      · rw [haddress]
        have hall : ∀ host ∈ resolveAddresses [address], w₀.network.takesHost host = true :=
          takesHost_of_resolved (List.cons_ne_nil _ _) (List.forall_mem_singleton.mpr hhosts)
        exact (hforward hall).bind fun _ _ => endures_pure trivial
      · rename_i hgiven
        have hall : ∀ host ∈ resolveAddresses addresses, w₀.network.takesHost host = true :=
          takesHost_of_resolved (by simpa using hgiven) htask.hosts
        exact (hforward hall).bind fun _ _ => endures_pure trivial
  | wait selection =>
      refine (hprepared rfl).bind fun selector hbounded => ?_
      exact (Command.endures_waitForPods hbounded).bind fun _ _ => endures_pure trivial
  | init secrets =>
      refine (endures_connect hs.ns).bind fun _ _ => ?_
      exact (Command.endures_initCluster hs.ns secrets).bind fun _ _ => endures_pure trivial

/-! ## What escapes -/

/-- The halts that nobody turns into a report: a client that cannot be built, a fault that the world
raises and that is no error of the API, the end of the input if it is among the answers, a text that
cannot be rendered, an interrupt if someone waits to make one, and never. -/
inductive Escapes (w : World) : Halt → Prop
  | unconfigured (h : w.cluster.unconfigured = true) : Escapes w .noClusterConfig
  | raised {fault : Fault} (h : w.Raises fault)
      (other : ∀ status reason, fault ≠ .api status reason) : Escapes w (.fault fault)
  | inputEnded (h : .endOfInput ∈ w.answers) : Escapes w .endOfInput
  | unrendered {text : String} (h : w.markup.renders text = false) : Escapes w (.unrendered text)
  | startled (h : w.interruptOn ≠ none) : Escapes w .interrupted
  | endless : Escapes w .endless

/-- What is neither a failure of the program's own nor an error of the API nor an interrupt
escapes. -/
theorem escapes_of_tolerable {halt : Halt} (h : Tolerable w₀ halt)
    (hfailed : ∀ failure, halt ≠ .failed failure)
    (hanswered : ∀ status reason, halt ≠ .fault (.api status reason))
    (hinterrupted : halt ≠ .interrupted) : Escapes w₀ halt := by
  cases h with
  | failed failure => exact absurd rfl (hfailed failure)
  | raised hraises =>
      exact .raised hraises fun status reason heq => hanswered status reason (congrArg _ heq)
  | unconfigured h => exact .unconfigured h
  | interrupted => exact absurd rfl hinterrupted
  | inputEnded h => exact .inputEnded h
  | unrendered h => exact .unrendered h
  | endless => exact .endless

/-- What escapes later escapes as well from a world before it. -/
theorem Escapes.of_precedes {w : World} {halt : Halt} (hw : w₀.Precedes w) (h : Escapes w halt) :
    Escapes w₀ halt := by
  cases h with
  | unconfigured h => exact .unconfigured (hw.cluster.unconfigured ▸ h)
  | raised h other => exact .raised (hw.raises h) other
  | inputEnded h => exact .inputEnded (hw.answers.subset h)
  | unrendered h => exact .unrendered (hw.machine.markup ▸ h)
  | startled h => exact .startled fun hnone => h (hw.alarm.elim (·.trans hnone) id)
  | endless => exact .endless

end PodReach.Program
