import PodReach.LogFile
import PodReach.Proofs.Discovery.Newest
import PodReach.Proofs.Session.ExitStatus
import PodReach.Proofs.World.Quiet
import PodReach.Session.Attach
import PodReach.Session.LogLines

/-!
# Sound worlds

In a sound world nothing that a run reads has the wrong shape: the cluster reports its pods
completely, every session ends with a well-formed status, and the log files are opened in a
directory that the system can be asked about. What is asked for may still be refused, and what is
open may break. Such a fault is often turned into a failure of the program's own; which ones are
raised as they are is said here once. A run changes the world that it meets in a few places only, so
what may be raised later might have been raised at the beginning.
-/

namespace PodReach

/-! ## Shapes -/

/-- A pod as a cluster reports it: it is complete and has a name. -/
structure Pod.Reported (pod : Pod) : Prop extends pod.Complete where
  named : ∃ name, pod.name? = some name ∧ name ≠ ""

/-- A session that ends with a status, if with any, in which nothing has the wrong shape. -/
def StreamScript.Legible (script : StreamScript) : Prop :=
  ∀ status, Json.read? script.status = some status → ¬ Session.Malformed script.status status

/-- Nothing that can be read in a world has the wrong shape. -/
structure World.Sound (w : World) : Prop where
  ns : w.cluster.ns.hashable = true
  pods : ∀ pod ∈ w.cluster.pods, pod.Reported
  listed : ∀ n pods, w.cluster.listAnswers n = .ok pods → ∀ pod ∈ pods, pod.Reported
  sessions : ∀ script ∈ w.cluster.streams, script.Legible
  logDirectory : ∃ directory, w.logDirectory = .text directory ∧
    LogFile.isAskable directory = true

/-- A status that can be read for a code is legible. -/
theorem StreamScript.legible_of_exitCode {script : StreamScript} {code : Option Int}
    (h : Session.exitCode script.status = .ok code) : script.Legible := by
  intro read hread hmalformed
  obtain ⟨mistake, hmistake⟩ := Session.exitCode_mistake_iff.mpr ⟨read, hread, hmalformed⟩
  cases h.symm.trans hmistake

theorem StreamScript.legible_silent : StreamScript.silent.Legible := by
  have hempty : StreamScript.silent.status = "" := rfl
  exact fun status hread => (Session.ne_empty_of_read? hread hempty).elim

theorem World.sound_empty : World.empty.Sound where
  ns := rfl
  pods _ h := absurd h List.not_mem_nil
  listed _ _ h _ hpod := absurd (Except.ok.inj h ▸ hpod) List.not_mem_nil
  sessions _ h := absurd h List.not_mem_nil
  logDirectory := ⟨_, rfl, by decide +kernel⟩

/-! ## Faults -/

/-- Whether a fault that a service answers with is turned into a failure of the program's own, or
passed over. -/
def Service.absorbs : Service → Fault → Bool
  | .openStream, fault => Session.expectedOnOpen fault
  | .openPortForward, _ => true
  | .readLog, .http _ => true
  | _, _ => false

/-- The faults of a session that are raised as they are: those of the terminal's size and of the
status at its end, and those at its beginning and in its updates that are not turned into a failure
of the session. -/
inductive StreamScript.Raises (script : StreamScript) : Fault → Prop
  | refused {fault : Fault} (h : script.refusal = some fault)
      (raw : Session.expectedOnOpen fault = false) : script.Raises fault
  | unsized {fault : Fault} (h : script.sizeFault = some fault) : script.Raises fault
  | resized {tick : Tick} {fault : Fault} (mem : tick ∈ script.ticks)
      (h : tick.resizeFault = some fault) : script.Raises fault
  | updated {tick : Tick} {fault : Fault} (mem : tick ∈ script.ticks)
      (h : tick.fault = some fault ∨ tick.readFault = some fault ∨ tick.sendFault = some fault)
      (raw : Session.asConnectionLost (.fault fault) = .fault fault) : script.Raises fault
  | unread {fault : Fault} (h : script.statusFault = some fault) : script.Raises fault

/-- The faults that can be raised in a world as they are: any error of the API of the cluster, and
of the others those of a call, of a session, of a log of the cluster and of a log file, as far as
they are not turned into something else. -/
inductive World.Raises (w : World) : Fault → Prop
  | answered (status : Int) (reason : Option String) : w.Raises (.api status reason)
  | refused {service : Service} {n : Nat} {fault : Fault}
      (h : w.cluster.broken service n = some fault) (raw : service.absorbs fault = false) :
      w.Raises fault
  | unlisted {n : Nat} {fault : Fault} (h : w.cluster.listAnswers n = .error fault) :
      w.Raises fault
  | session {script : StreamScript} {fault : Fault} (mem : script ∈ w.cluster.streams)
      (h : script.Raises fault) : w.Raises fault
  | log {fault : Fault} (mem : .error fault ∈ w.cluster.log)
      (raw : Session.logHalt fault = .fault fault) : w.Raises fault
  | logFile {name : String} {logs : OpenLogs} {fault : Fault}
      (h : LogFile.openIn (w.logFault w.logDirectory name) w.logDirectory name logs =
        .error (.fault fault)) : w.Raises fault

/-! ## What comes later -/

/-- What a cluster keeps while it is used: only its sessions are used up. -/
structure Cluster.Serves (c c' : Cluster) : Prop where
  unconfigured : c'.unconfigured = c.unconfigured
  pods : c'.pods = c.pods
  listAnswers : c'.listAnswers = c.listAnswers
  broken : c'.broken = c.broken
  log : c'.log = c.log
  streams : c'.streams <:+ c.streams

theorem Cluster.Serves.trans {c c' c'' : Cluster} (h : c.Serves c') (h' : c'.Serves c'') :
    c.Serves c'' where
  unconfigured := h'.unconfigured.trans h.unconfigured
  pods := h'.pods.trans h.pods
  listAnswers := h'.listAnswers.trans h.listAnswers
  broken := h'.broken.trans h.broken
  log := h'.log.trans h.log
  streams := h'.streams.trans h.streams

namespace World

variable {w w' w'' : World}

/-- What a machine keeps while it is used. -/
structure SameMachine (w w' : World) : Prop where
  markup : w'.markup = w.markup
  takesHost : w'.network.takesHost = w.network.takesHost
  logDirectory : w'.logDirectory = w.logDirectory
  logFault : w'.logFault = w.logFault

theorem SameMachine.trans (h : w.SameMachine w') (h' : w'.SameMachine w'') :
    w.SameMachine w'' where
  markup := h'.markup.trans h.markup
  takesHost := h'.takesHost.trans h.takesHost
  logDirectory := h'.logDirectory.trans h.logDirectory
  logFault := h'.logFault.trans h.logFault

/-- A sound world that an action may find after another one: some of the answers may have been
given. -/
structure Precedes (w w' : World) : Prop where
  ns : w'.cluster.ns.hashable = true
  sound : w.Sound
  cluster : w.cluster.Serves w'.cluster
  answers : w'.answers <:+ w.answers
  alarm : w.SameAlarm w'
  machine : w.SameMachine w'

theorem precedes_self (h : w.Sound) : w.Precedes w where
  ns := h.ns
  sound := h
  cluster := ⟨rfl, rfl, rfl, rfl, rfl, List.suffix_refl _⟩
  answers := List.suffix_refl _
  alarm := Or.inl rfl
  machine := ⟨rfl, rfl, rfl, rfl⟩

namespace Precedes

/-- What comes after a sound world is sound. -/
theorem sound_after (h : w.Precedes w') : w'.Sound where
  ns := h.ns
  pods := h.cluster.pods ▸ h.sound.pods
  listed := h.cluster.listAnswers ▸ h.sound.listed
  sessions script hmem := h.sound.sessions script (h.cluster.streams.subset hmem)
  logDirectory := h.machine.logDirectory ▸ h.sound.logDirectory

theorem trans (h : w.Precedes w') (h' : w'.Precedes w'') : w.Precedes w'' where
  ns := h'.ns
  sound := h.sound
  cluster := h.cluster.trans h'.cluster
  answers := h'.answers.trans h.answers
  alarm := h.alarm.trans h'.alarm
  machine := h.machine.trans h'.machine

/-- What is raised later might have been raised before. -/
theorem raises {fault : Fault} (h : w.Precedes w') (hraised : w'.Raises fault) :
    w.Raises fault := by
  cases hraised with
  | answered status reason => exact .answered status reason
  | refused hbroken raw => exact .refused (h.cluster.broken ▸ hbroken) raw
  | unlisted hlisted => exact .unlisted (h.cluster.listAnswers ▸ hlisted)
  | session mem hraises => exact .session (h.cluster.streams.subset mem) hraises
  | log mem raw => exact .log (h.cluster.log ▸ mem) raw
  | logFile hopen =>
      rw [h.machine.logDirectory, h.machine.logFault] at hopen
      exact .logFile hopen

/-- What is not about the cluster changes nothing that matters here, except that answers are given
and an interrupt is made. -/
theorem goes_on (h : w.Precedes w') (hcluster : w''.cluster = w'.cluster)
    (hanswers : w''.answers <:+ w'.answers) (halarm : w'.SameAlarm w'')
    (hmachine : w'.SameMachine w'') : w.Precedes w'' := by
  refine h.trans ⟨hcluster ▸ h.ns, h.sound_after, ?_, hanswers, halarm, hmachine⟩
  rw [hcluster]
  exact ⟨rfl, rfl, rfl, rfl, rfl, List.suffix_refl _⟩

theorem of_same (h : w.Precedes w') (hcluster : w''.cluster = w'.cluster)
    (hanswers : w''.answers = w'.answers) (halarm : w''.interruptOn = w'.interruptOn)
    (hmachine : w'.SameMachine w'') : w.Precedes w'' :=
  h.goes_on hcluster (hanswers ▸ List.suffix_refl _) (Or.inl halarm) hmachine

end Precedes

end World

/-- The halts that an action may end with in a sound world: an expected failure, a fault that the
world raises, a client that cannot be built, an interrupt, the end of the input if it is among the
answers, a text that cannot be rendered, and never. A mistake is not among them. -/
inductive Tolerable (w : World) : Halt → Prop
  | failed (failure : Failure) : Tolerable w (.failed failure)
  | raised {fault : Fault} (h : w.Raises fault) : Tolerable w (.fault fault)
  | unconfigured (h : w.cluster.unconfigured = true) : Tolerable w .noClusterConfig
  | interrupted : Tolerable w .interrupted
  | inputEnded (h : .endOfInput ∈ w.answers) : Tolerable w .endOfInput
  | unrendered {text : String} (h : w.markup.renders text = false) :
      Tolerable w (.unrendered text)
  | endless : Tolerable w .endless

end PodReach
