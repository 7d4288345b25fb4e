import PodReach.Proofs.World.Endurance
import PodReach.Session.LogLines

/-!
# What can come of a session in a sound world

A session that is refused or lost is an expected failure, and so is a log that breaks off. Other
faults are raised as they are: those of the log file, of the size of the terminal, and of the status
at the end. What a well-formed status reports is never a mistake.
-/

namespace PodReach.Session

open Run

variable {w₀ : World} {E : Halt → Prop} {sendFault : Option Fault} {tick : Tick}
  {script : StreamScript} {pod : Pod}

/-! ## Relaying -/

theorem endures_sendTerminalSize (h : ∀ fault, sendFault = some fault → E (.fault fault)) :
    Endures w₀ E Whatever (sendTerminalSize sendFault) :=
  (endures_unlessBroken h).bind fun _ _ => endures_get.bind fun _ _ => endures_record _

theorem endures_sendInput (h : ∀ fault, sendFault = some fault → E (.fault fault))
    (text : List Char) : Endures w₀ E Whatever (sendInput sendFault text) :=
  (endures_unlessBroken h).bind fun _ _ => endures_record _

theorem endures_applyTick (h : ∀ fault, tick.fault = some fault → E (.fault fault)) :
    Endures w₀ E Whatever (applyTick tick) := by
  refine (endures_advance _).bind fun _ _ => (endures_unlessBroken h).bind fun _ _ => ?_
  split
  · exact endures_modify fun w hw => hw.of_same rfl rfl rfl ⟨rfl, rfl, rfl, rfl⟩
  · exact endures_pure trivial

theorem endures_resize (watching : Bool)
    (h : ∀ fault, tick.resizeFault = some fault → E (.fault fault)) :
    Endures w₀ E Whatever (resize watching tick) := by
  unfold resize
  split
  · refine Endures.bind (P := Whatever) (endures_modify fun w hw => ?_) fun _ _ => ?_
    · exact hw.of_same rfl rfl rfl ⟨rfl, rfl, rfl, rfl⟩
    · split
      · exact endures_sendTerminalSize h
      · exact endures_pure trivial
  · exact endures_pure trivial

theorem endures_writeOutput (h : ∀ fault, tick.readFault = some fault → E (.fault fault)) :
    Endures w₀ E Whatever (writeOutput tick) := by
  refine (endures_unlessBroken h).bind fun _ _ => ?_
  exact endures_when (endures_record _) (endures_when (endures_record _) (endures_pure trivial))

theorem endures_readInput : Endures w₀ E Whatever readInput := by
  refine endures_get.bind fun w _ => ?_
  dsimp only
  split
  · refine (endures_modify fun v hv => ?_).bind fun _ _ => endures_pure trivial
    exact hv.of_same rfl rfl rfl ⟨rfl, rfl, rfl, rfl⟩
  · exact endures_pure trivial

theorem endures_forwardInput (closeOnEnd : Bool)
    (h : ∀ fault, sendFault = some fault → E (.fault fault)) (state : Relaying) :
    Endures w₀ E Whatever (forwardInput closeOnEnd sendFault state) := by
  have hsince : Endures w₀ E Whatever (do
      let since ← if closeOnEnd then some <$> Clock.read else pure none
      return { state with reading := false, silentSince := since }) := by
    split
    · have hclock : Endures w₀ E Whatever (some <$> Clock.read) :=
        endures_readClock.bind fun _ _ => endures_pure trivial
      exact hclock.bind fun _ _ => endures_pure trivial
    · exact endures_pure trivial
  refine endures_readInput.bind fun bytes _ => ?_
  split
  · exact endures_pure trivial
  · exact endures_when (endures_sendInput h _) hsince
  · exact (endures_sendInput h _).bind fun _ _ => endures_pure trivial

theorem endures_afterUpdate (closeOnEnd received : Bool)
    (h : ∀ fault, sendFault = some fault → E (.fault fault)) (state : Relaying) :
    Endures w₀ E Whatever (afterUpdate closeOnEnd received sendFault state) := by
  unfold afterUpdate
  split
  · refine endures_readClock.bind fun now _ => ?_
    split
    · exact endures_pure trivial
    · split
      · exact (endures_record _).bind fun _ _ => endures_pure trivial
      · exact endures_pure trivial
  · split
    · exact (endures_forwardInput closeOnEnd h state).bind fun _ _ => endures_pure trivial
    · exact endures_pure trivial

/-- A connection that is lost is an expected failure, and any other fault is raised as it is. -/
theorem tolerable_asConnectionLost {fault : Fault}
    (h : asConnectionLost (.fault fault) = .fault fault → w₀.Raises fault) :
    Tolerable w₀ (asConnectionLost (.fault fault)) := by
  cases fault with
  | api status reason => exact .raised (h rfl)
  | websocket detail => exact .failed _
  | os detail => exact .failed _
  | http detail => exact .raised (h rfl)

theorem endures_inRelay {α : Type} {P : α → Prop} {action : Run α}
    (h : Endures w₀ (fun halt => ∃ fault, halt = .fault fault ∧
      (asConnectionLost (.fault fault) = .fault fault → w₀.Raises fault)) P action) :
    Endures w₀ (Tolerable w₀) P (inRelay action) := by
  refine h.tryCatch ?_
  rintro _ ⟨fault, rfl, hraises⟩
  exact endures_throw (tolerable_asConnectionLost hraises)

section Raising

variable (hraises : ∀ fault, script.Raises fault → w₀.Raises fault)
include hraises

theorem endures_relayOnce (watching closeOnEnd : Bool) (state : Relaying)
    (htick : tick ∈ script.ticks) :
    Endures w₀ (Tolerable w₀) Whatever (relayOnce watching closeOnEnd state tick) := by
  have hupdated {fault : Fault} (h : tick.fault = some fault ∨ tick.readFault = some fault ∨
      tick.sendFault = some fault) : ∃ fault', Halt.fault fault = .fault fault' ∧
      (asConnectionLost (.fault fault') = .fault fault' → w₀.Raises fault') :=
    ⟨fault, rfl, fun raw => hraises fault (.updated htick h raw)⟩
  have happly : Endures w₀ (Tolerable w₀) Whatever (inRelay (applyTick tick)) :=
    endures_inRelay (endures_applyTick fun _ h => hupdated (Or.inl h))
  have hresize : Endures w₀ (Tolerable w₀) Whatever (resize watching tick) :=
    endures_resize watching fun fault h => .raised (hraises fault (.resized htick h))
  refine (happly.bind fun _ _ => hresize).bind fun _ _ => endures_inRelay ?_
  refine (endures_writeOutput fun _ h => hupdated (Or.inr (Or.inl h))).bind fun received _ => ?_
  exact endures_afterUpdate closeOnEnd received (fun _ h => hupdated (Or.inr (Or.inr h))) state

/-- Relaying ends early only with what an update brings. -/
theorem endures_relayTicks (watching closeOnEnd : Bool) (state : Relaying) {ticks : List Tick}
    (hticks : ∀ tick ∈ ticks, tick ∈ script.ticks) :
    Endures w₀ (Tolerable w₀) Whatever (relayTicks watching closeOnEnd state ticks) := by
  induction ticks generalizing state with
  | nil => exact endures_pure trivial
  | cons tick rest ih =>
      have htick := hticks tick List.mem_cons_self
      rw [relayTicks]
      refine (endures_relayOnce hraises watching closeOnEnd state htick).bind fun next _ => ?_
      cases next with
      | none => exact endures_pure trivial
      | some state => exact ih state fun tick ht => hticks tick (List.mem_cons_of_mem _ ht)

omit hraises in
/-- A well-formed status is reported, as an exit code or as a failure. -/
theorem within_exitCode (h : script.Legible) :
    Within (Tolerable w₀) Whatever (exitCode script.status) := by
  cases hcode : exitCode script.status with
  | ok code => trivial
  | error halt =>
      rcases exitCode_failed_or_mistake hcode with ⟨failure, rfl⟩ | ⟨mistake, rfl⟩
      · exact .failed failure
      · obtain ⟨status, hread, hmalformed⟩ := exitCode_mistake_iff.mp ⟨mistake, hcode⟩
        exact absurd hmalformed (h status hread)

theorem endures_relay (watching closeOnEnd : Bool) (hlegible : script.Legible) :
    Endures w₀ (Tolerable w₀) Whatever (relay watching closeOnEnd script) := by
  refine endures_get.bind fun w _ => ?_
  refine (endures_relayTicks hraises watching closeOnEnd _ fun _ => id).bind fun _ _ => ?_
  refine (endures_unlessBroken fun fault h => ?_).bind fun _ _ => ?_
  · exact .raised (hraises fault (.unread h))
  · exact endures_ofExcept (within_exitCode hlegible)

end Raising

/-! ## A whole session -/

theorem endures_withRawTerminal {α : Type} {P : α → Prop} (raw : Bool) {action : Run α}
    (h : Endures w₀ E P action) : Endures w₀ E P (withRawTerminal raw action) := by
  have hset (attributes : World → TerminalAttributes) : Endures w₀ E Whatever
      (modify fun w => { w with terminalAttributes := attributes w } : Run Unit) :=
    endures_modify fun _ hw => hw.of_same rfl rfl rfl ⟨rfl, rfl, rfl, rfl⟩
  unfold withRawTerminal
  split
  · refine endures_get.bind fun w _ => Endures.always ?_ ?_
    · exact Endures.bind ((endures_record _).bind fun _ _ => hset _) fun _ _ => h
    · exact (endures_record _).bind fun _ _ => hset _
  · exact h

theorem endures_awaitRelay (script : StreamScript) {outcome : Except Halt (Option Int)}
    (h : Within (Tolerable w₀) Whatever outcome) :
    Endures w₀ (Tolerable w₀) Whatever (awaitRelay script outcome) := by
  unfold awaitRelay
  split
  · exact endures_throw .interrupted
  · exact endures_ofExcept h

theorem endures_reportEnding (label : String) {outcome : Except Halt (Option Int)}
    (h : Within (Tolerable w₀) Whatever outcome) :
    Endures w₀ (Tolerable w₀) Whatever (reportEnding label outcome) := by
  unfold reportEnding
  split
  · exact (endures_log _ _).bind fun _ _ => endures_pure trivial
  · exact (endures_log _ _).bind fun _ _ => endures_throw (.failed _)
  · exact endures_throw h

theorem endures_runSession (tty : Bool) (label : String)
    (hraises : ∀ fault, script.Raises fault → w₀.Raises fault) (hlegible : script.Legible) :
    Endures w₀ (Tolerable w₀) Whatever (runSession script tty label) := by
  refine (endures_relay hraises tty (!tty) hlegible).attempt.bind fun relayed hrelayed => ?_
  refine endures_get.bind fun w _ => ?_
  refine (endures_withRawTerminal _ (endures_awaitRelay script hrelayed)).attempt.bind
    fun outcome houtcome => ?_
  exact endures_reportEnding label houtcome

theorem endures_beginSession (tty : Bool)
    (hraises : ∀ fault, script.Raises fault → w₀.Raises fault) :
    Endures w₀ (Tolerable w₀) Whatever (beginSession script tty) := by
  unfold beginSession
  split
  · refine (endures_sendTerminalSize fun fault h => ?_).bind fun _ _ => endures_record _
    exact .raised (hraises fault (.unsized h))
  · exact endures_pure trivial

theorem endures_endSession (tty : Bool) : Endures w₀ E Whatever (endSession tty) := by
  unfold endSession
  exact endures_when (endures_record _) (endures_record _)

/-- A stream that is opened is one that the world holds, or a silent one. -/
theorem endures_openStream (name : Option String) (ns : Yaml) (container : Option String)
    (command : Option (List String)) (tty : Bool) :
    Endures w₀
      (fun halt => ∃ fault, halt = .fault fault ∧ (expectedOnOpen fault = false → w₀.Raises fault))
      (fun script => script.Legible ∧ ∀ fault, script.Raises fault → w₀.Raises fault)
      (Cluster.openStream name ns container command tty) := by
  refine (Cluster.endures_request (fun _ fault h => ?_) _).bind fun _ _ =>
    endures_get.bind fun w hw => ?_
  · exact ⟨fault, rfl, fun raw => .refused h raw⟩
  · split
    · refine endures_pure ⟨StreamScript.legible_silent, ?_⟩
      rintro _ (⟨⟨⟩, -⟩ | ⟨⟨⟩⟩ | ⟨⟨⟩, -⟩ | ⟨⟨⟩, -, -⟩ | ⟨⟨⟩⟩)
    · rename_i script rest hstreams
      have hmem : script ∈ w.cluster.streams := hstreams ▸ List.mem_cons_self
      have hraises : ∀ fault, script.Raises fault → w₀.Raises fault :=
        fun fault h => hw.raises (.session hmem h)
      have hrest : rest <:+ w₀.cluster.streams :=
        (List.suffix_cons script rest).trans (hstreams ▸ hw.cluster.streams)
      refine (Cluster.endures_update (fun c hc => ?_) fun c hns => ?_).bind fun _ _ => ?_
      · exact ⟨hc.unconfigured, hc.pods, hc.listAnswers, hc.broken, hc.log, hrest⟩
      · exact hns
      · refine (endures_unlessBroken fun fault h => ?_).bind fun _ _ =>
          endures_pure ⟨hw.sound_after.sessions script hmem, hraises⟩
        exact ⟨fault, rfl, fun raw => hraises fault (.refused h raw)⟩

theorem endures_warnUnlessInteractive (container : Container) :
    Endures w₀ (Tolerable w₀) Whatever (warnUnlessInteractive container) := by
  unfold warnUnlessInteractive
  dsimp only
  split
  · exact endures_line _
  · exact endures_pure trivial

theorem endures_openSession (hpod : pod.Reported) (container : Container)
    (command : Option (List String)) :
    Endures w₀ (Tolerable w₀)
      (fun opened => opened.script.Legible ∧ ∀ fault, opened.script.Raises fault → w₀.Raises fault)
      (openSession pod container command) := by
  refine (endures_openFile (by decide +kernel)).bind fun _ _ => endures_get.bind fun w _ => ?_
  refine endures_when (endures_warnUnlessInteractive container) ?_
  refine (endures_need_isSome hpod.metadata).bind fun metadata _ => ?_
  refine endures_get.bind fun w _ => ?_
  refine (endures_line _).bind fun _ _ => (endures_line _).bind fun _ _ => ?_
  refine (endures_openStream _ _ _ _ _).attempt.bind fun answer hanswer => ?_
  split
  · rename_i fault
    obtain ⟨_, hfault, hraises⟩ := hanswer
    cases hfault
    split
    · exact (endures_log _ _).bind fun _ _ => endures_throw (.failed _)
    · rename_i hunexpected
      exact endures_throw (.raised (hraises (Bool.eq_false_iff.mpr hunexpected)))
  · rename_i halt hother
    obtain ⟨fault, rfl, -⟩ := hanswer
    exact absurd rfl (hother fault)
  · exact endures_pure hanswer

theorem endures_attach (hpod : pod.Reported) (container : Container)
    (command : Option (List String)) :
    Endures w₀ (Tolerable w₀) Whatever (attach pod container command) := by
  refine (endures_openSession hpod container command).bind fun opened hopened => ?_
  obtain ⟨hlegible, hraises⟩ := hopened
  refine Endures.bind (endures_log _ _) fun _ _ => ?_
  refine (endures_beginSession opened.tty hraises).bind fun _ _ => ?_
  exact (endures_runSession opened.tty opened.label hraises hlegible).always (endures_endSession _)

/-! ## Logs -/

/-- The fault that ends the lines of a log is one of its pieces. -/
theorem mem_of_linesFrom {pieces : List (Except Fault (List UInt8))} {fault : Fault}
    {partialChar : Option Text.PartialChar} {pending : List Char}
    (h : (linesFrom partialChar pending pieces).2 = some fault) : .error fault ∈ pieces := by
  induction pieces generalizing partialChar pending with
  | nil => cases h
  | cons piece rest ih =>
      cases piece with
      | error fault' =>
          cases h
          exact List.mem_cons_self
      | ok bytes => exact List.mem_cons_of_mem _ (ih h)

/-- A log that breaks off is an expected failure, and any other fault is raised as it is. -/
theorem tolerable_logHalt {fault : Fault} (h : logHalt fault = .fault fault → w₀.Raises fault) :
    Tolerable w₀ (logHalt fault) := by
  cases fault with
  | http detail => exact .failed _
  | _ => exact .raised (h rfl)

/-- A log begins to be read, or that is refused. -/
theorem endures_readLog (name : Option String) (ns : Yaml) (container : Option String)
    (follow : Bool) (tail : Yaml) :
    Endures w₀
      (fun halt => ∃ fault, halt = .fault fault ∧ (logHalt fault = .fault fault → w₀.Raises fault))
      (fun pieces => ∀ fault, .error fault ∈ pieces →
        logHalt fault = .fault fault → w₀.Raises fault)
      (Cluster.readLog name ns container follow tail) := by
  refine (Cluster.endures_request (fun _ fault h => ?_) _).bind fun _ _ =>
    endures_get.bind fun w hw => ?_
  · refine ⟨fault, rfl, fun raw => ?_⟩
    cases fault with
    | http detail => cases raw
    | _ => exact .refused h rfl
  · exact endures_pure fun fault hmem raw => hw.raises (.log hmem raw)

/-- A log is read to its end or to a halt that is tolerable. -/
theorem endures_logLines (hpod : pod.Reported) (container : Option String) (follow : Bool)
    (tail : Yaml) :
    Endures w₀ (Tolerable w₀) (fun read => ∀ halt, read.2 = some halt → Tolerable w₀ halt)
      (logLines pod container follow tail) := by
  refine (endures_need_isSome hpod.metadata).bind fun metadata _ => ?_
  refine endures_get.bind fun w _ => ?_
  refine (endures_readLog _ _ _ _ _).attempt.bind fun answer hanswer => ?_
  split
  · rename_i pieces
    refine endures_pure fun halt hhalt => ?_
    obtain ⟨fault, hfault, rfl⟩ := Option.map_eq_some_iff.mp hhalt
    exact tolerable_logHalt (hanswer fault (mem_of_linesFrom hfault))
  · rename_i fault
    obtain ⟨_, hfault, hraises⟩ := hanswer
    cases hfault
    refine endures_pure fun halt hhalt => ?_
    cases hhalt
    exact tolerable_logHalt hraises
  · rename_i halt hother
    obtain ⟨fault, rfl, -⟩ := hanswer
    exact absurd rfl (hother fault)

end PodReach.Session
