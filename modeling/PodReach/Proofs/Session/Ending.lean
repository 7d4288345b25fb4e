import Mathlib.Data.List.Basic
import PodReach.Proofs.Session.Frames
import PodReach.Proofs.Session.Output
import PodReach.Session.Attach

/-!
# How a session ends

Whatever happens to an open stream once the size of the terminal was sent, the last thing that is
done is to close it: after a result, a failure, an interrupt. A fault of the connection is reported
as a failure of the session, with two exceptions, the reading of the exit status and the passing on
of a new size of the terminal. A size that cannot be sent at the start is another matter: it ends
the session before anything is prepared that would close the stream.
-/

namespace PodReach

namespace Session

open Run World

/-! ## The parts of a session -/

/-- What the end of a session writes down. -/
def endEntries (tty : Bool) : List Entry :=
  (if tty then [.traffic .resizeUnwatched] else []) ++ [.traffic .streamClosed]

theorem endSession_apply (tty : Bool) (w : World) :
    endSession tty w = (.ok (), w.noted (endEntries tty)) := by
  cases tty <;> simp [noted, endEntries] <;> rfl

theorem awaitRelay_apply (script : StreamScript) (outcome : Except Halt (Option Int)) (w : World) :
    awaitRelay script outcome w =
      (if script.interrupted then .error .interrupted else outcome, w) := by
  unfold awaitRelay
  split_ifs
  · rfl
  · exact ofExcept_apply outcome w

/-- The world with the local terminal made raw. -/
def madeRaw (w : World) : World :=
  { w.noted [.traffic .rawEntered] with terminalAttributes := w.terminalAttributes.raw }

/-- The world with the attributes of the local terminal restored. -/
def restoredTo (saved : TerminalAttributes) (w : World) : World :=
  { w.noted [.traffic .rawLeft] with terminalAttributes := saved }

theorem makeRaw_apply (w : World) : makeRaw w = (.ok (), madeRaw w) := by
  unfold makeRaw
  rw [bind_of_ok (record_apply _ w)]
  rfl

theorem restoreTerminal_apply (saved : TerminalAttributes) (w : World) :
    restoreTerminal saved w = (.ok (), restoredTo saved w) := by
  unfold restoreTerminal
  rw [bind_of_ok (record_apply _ w)]
  rfl

/-- What is done while the terminal is raw ends as it does, and then the terminal is as before. -/
theorem withRawTerminal_apply {α : Type} (raw : Bool) (action : Run α) (w : World) :
    withRawTerminal raw action w =
      if raw then
        ((action (madeRaw w)).1, restoredTo w.terminalAttributes (action (madeRaw w)).2)
      else action w := by
  unfold withRawTerminal
  cases raw with
  | false => rfl
  | true =>
      have hmade : (makeRaw >>= fun _ => action) w = action (madeRaw w) :=
        bind_of_ok (makeRaw_apply w)
      simp only [if_true]
      rw [bind_of_ok (get_apply w), always_of_ok (restoreTerminal_apply _ _), hmade]

theorem withRawTerminal_outcome {α : Type} (raw : Bool) {action : Run α} {outcome : Except Halt α}
    (h : ∀ w, action w = (outcome, w)) (w : World) :
    (withRawTerminal raw action w).1 = outcome := by
  rw [withRawTerminal_apply]
  split_ifs <;> rw [h]

theorem reportEnding_outcome (label : String) (outcome : Except Halt (Option Int)) (w : World) :
    (reportEnding label outcome w).1 = outcome := by
  rcases outcome with halt | code
  · cases halt <;> rfl
  · rfl

/-- A session ends as its relay does, unless someone interrupts the waiting. -/
theorem runSession_outcome (script : StreamScript) (tty : Bool) (label : String) (w : World) :
    (runSession script tty label w).1 =
      if script.interrupted then .error .interrupted else (relay tty (!tty) script w).1 := by
  unfold runSession
  rw [bind_of_ok (attempt_apply _ w), bind_of_ok (get_apply _), bind_of_ok (attempt_apply _ _),
    reportEnding_outcome]
  exact withRawTerminal_outcome _ (awaitRelay_apply script _) _

theorem grew_carried : Carried Grew where
  log _ _ := grew_record _
  traffic _ _ := grew_record _
  advance _ _ := List.prefix_rfl
  input _ _ _ := List.prefix_rfl
  size _ _ := List.prefix_rfl

/-- Whatever happens in a session, it only adds to the journal. -/
theorem grew_runSession (script : StreamScript) (tty : Bool) (label : String) :
    Keeps Grew (runSession script tty label) :=
  keeps_runSession grew_carried ((grew_record _).bind fun _ _ => List.prefix_rfl)
    (fun _ => (grew_record _).bind fun _ _ => List.prefix_rfl) script tty label

/-! ## The exit status -/

/-- An outcome that is no fault of a call or a connection. -/
def Faultless {α : Type} (outcome : Except Halt α) : Prop :=
  ∀ fault, outcome ≠ .error (.fault fault)

section Faultless

variable {α β : Type}

theorem faultless_ok (a : α) : Faultless (.ok a : Except Halt α) := by
  intro fault h
  cases h

theorem faultless_mistake (mistake : Mistake) :
    Faultless (.error (.mistake mistake) : Except Halt α) := by
  intro fault h
  cases h

theorem Faultless.bind {outcome : Except Halt α} {next : α → Except Halt β}
    (h : Faultless outcome) (hnext : ∀ a, Faultless (next a)) : Faultless (outcome >>= next) := by
  cases outcome with
  | error halt =>
      intro fault heq
      cases heq
      exact h fault rfl
  | ok a => exact hnext a

theorem faultless_fieldOf (name : String) (value : Json) : Faultless (fieldOf name value) := by
  cases value with
  | object => exact faultless_ok _
  | _ => exact faultless_mistake _

theorem faultless_codeOf (value : Json) : Faultless (codeOf value) := by
  unfold codeOf
  split
  · exact faultless_ok _
  · exact faultless_ok _
  · split
    · exact faultless_ok _
    · exact faultless_mistake _
  · split
    · exact faultless_ok _
    · exact faultless_mistake _
  · exact faultless_mistake _

theorem faultless_codeOfCauses (causes : List Json) : Faultless (codeOfCauses causes) := by
  induction causes with
  | nil => exact faultless_ok _
  | cons cause rest ih =>
      apply (faultless_fieldOf "reason" cause).bind
      intro reason
      split_ifs
      · split
        · exact faultless_codeOf _
        · exact faultless_ok _
      · exact ih

theorem faultless_causesOf (details : Json) : Faultless (causesOf details) := by
  unfold causesOf
  split_ifs
  · exact faultless_ok _
  · apply (faultless_fieldOf "causes" details).bind
    intro causes
    split_ifs
    · exact faultless_ok _
    · split
      · exact faultless_ok _
      · exact faultless_mistake _
      · exact faultless_mistake _
      · exact faultless_mistake _

/-- A status that was read is never reported as a fault. -/
theorem faultless_exitCode (raw : String) : Faultless (exitCode raw) := by
  have hstatus : ∀ status, Faultless (exitCodeOf raw status) := by
    intro status
    apply (faultless_fieldOf "status" status).bind
    intro ended
    split_ifs
    · exact faultless_ok _
    · apply (faultless_fieldOf "reason" status).bind
      intro reason
      split_ifs
      · apply (faultless_fieldOf "details" status).bind
        intro details
        exact (faultless_causesOf details).bind faultless_codeOfCauses
      · apply (faultless_fieldOf "message" status).bind
        intro message fault h
        cases h
  unfold exitCode
  split_ifs
  · exact faultless_ok _
  · split
    · intro fault h
      cases h
    · next status _ => exact (hstatus status).bind fun code => faultless_ok (some code)

end Faultless

/-! ## Which faults are left -/

/-- A fault of the connection itself. -/
def OfConnection (fault : Fault) : Prop :=
  ∃ detail, fault = .websocket detail ∨ fault = .os detail

/-- In the loop of a relay, a fault of the connection counts as its loss. -/
theorem lossOf_ne {fault : Fault} (other : Fault) (h : OfConnection fault) :
    lossOf other ≠ .fault fault := by
  obtain ⟨detail, rfl | rfl⟩ := h <;> cases other <;> nofun

/-- A relay leaves a fault of the connection as it is only when the status cannot be read, as long
as new sizes of the terminal can be passed on. -/
theorem statusFault_of_relay {watching closeOnEnd : Bool} {script : StreamScript} {w : World}
    {fault : Fault} (hsized : watching = true → ∀ tick ∈ script.ticks, tick.resize ≠ none →
      tick.resizeFault = none)
    (h : (relay watching closeOnEnd script w).1 = .error (.fault fault))
    (hconnection : OfConnection fault) : script.statusFault = some fault := by
  rw [relay_apply] at h
  rcases hloop : relayTicks watching closeOnEnd (.start w) script.ticks w with ⟨halt | _, v⟩ <;>
    rw [hloop] at h
  · cases h
    obtain ⟨tick, htick, hfails⟩ := failsBy_of_relayTicks (congrArg Prod.fst hloop)
    generalize hhalt : Halt.fault fault = halt at hfails
    cases hfails with
    | lost reported => exact absurd hhalt.symm (lossOf_ne _ hconnection)
    | unsized watched resized unsent =>
        rw [hsized watched tick htick resized] at unsent
        cases unsent
  · cases hstatus : script.statusFault with
    | none =>
        rw [hstatus] at h
        exact absurd h (faultless_exitCode script.status fault)
    | some statusFault =>
        rw [hstatus] at h
        cases h
        rfl

/-! ## Sessions -/

/-- Everything that a session says about the size of its terminal can be sent: at the start, and
whenever the size changes. -/
def SizesSent (opened : Opened) : Prop :=
  opened.tty = true → opened.script.sizeFault = none ∧
    ∀ tick ∈ opened.script.ticks, tick.resize ≠ none → tick.resizeFault = none

section Session

variable {pod : Pod} {container : Container} {command : Option (List String)} {opened : Opened}
  {w v : World}

theorem logOpened_apply (command : Option (List String)) (opened : Opened) (w : World) :
    ∃ text, logOpened command opened w = (.ok (), w.noted [.log .info text]) :=
  ⟨_, record_apply _ w⟩

theorem beginSession_of_sized {script : StreamScript} {tty : Bool}
    (h : tty = true → script.sizeFault = none) (w : World) :
    ∃ entries, beginSession script tty w = (.ok (), w.noted entries) := by
  cases tty with
  | false => exact ⟨[], by rw [noted_nil]; rfl⟩
  | true =>
      refine ⟨[.traffic (.resized w.terminalSize.1 w.terminalSize.2), .traffic .resizeWatched], ?_⟩
      unfold beginSession sendTerminalSize
      rw [h rfl]
      simp [noted]
      rfl

/-- A session that can send its first size is relayed and then ended. -/
theorem attach_of_sized (hopened : openSession pod container command w = (.ok opened, v))
    (hsized : opened.tty = true → opened.script.sizeFault = none) :
    ∃ u, v.journal.toList <+: u.journal.toList ∧ attach pod container command w =
      always (runSession opened.script opened.tty opened.label) (endSession opened.tty) u := by
  obtain ⟨text, hlog⟩ := logOpened_apply command opened v
  obtain ⟨entries, hbegin⟩ := beginSession_of_sized hsized (v.noted [.log .info text])
  refine ⟨(v.noted [.log .info text]).noted entries, ?_, ?_⟩
  · rw [journal_noted, journal_noted, List.append_assoc]
    exact List.prefix_append _ _
  · unfold attach
    rw [bind_of_ok hopened, bind_of_ok hlog, bind_of_ok hbegin]

/-- **A session ends with the closing of its stream.** If the sizes of the terminal can be sent,
then whatever happens once the stream is open, closing it is the last thing that is done; the
session ends as its relay does, or with the interrupt of the one who waits for that; and the only
fault of the connection that can be left as it is, is one in reading the exit status. -/
theorem attach_ending_law (hopened : openSession pod container command w = (.ok opened, v))
    (hsized : SizesSent opened) :
    (∃ entries, (attach pod container command w).2.journal.toList =
      v.journal.toList ++ entries ++ [.traffic .streamClosed]) ∧
    (∃ u, (attach pod container command w).1 =
      if opened.script.interrupted then .error .interrupted
      else (relay opened.tty (!opened.tty) opened.script u).1) ∧
    ∀ fault, OfConnection fault →
      (attach pod container command w).1 = .error (.fault fault) →
        opened.script.statusFault = some fault := by
  obtain ⟨u, hgrown, hattach⟩ := attach_of_sized hopened (fun htty => (hsized htty).1)
  rw [hattach, always_of_ok (endSession_apply opened.tty _)]
  have houtcome := runSession_outcome opened.script opened.tty opened.label u
  refine ⟨?_, ⟨u, houtcome⟩, ?_⟩
  · obtain ⟨entries, hentries⟩ :=
      hgrown.trans (grew_runSession opened.script opened.tty opened.label u)
    refine ⟨entries ++ if opened.tty then [.traffic .resizeUnwatched] else [], ?_⟩
    rw [journal_noted, ← hentries, endEntries]
    simp only [List.append_assoc]
  · intro fault hconnection hfault
    rw [houtcome] at hfault
    split_ifs at hfault
    · cases hfault
    · exact statusFault_of_relay (fun htty => (hsized htty).2) hfault hconnection

/-- The connection is lost in the loop of a session, which is closed and fails for that. -/
theorem attach_ending_dropped :
    let pod : Pod := ⟨some ⟨some "web", none, [], none, false⟩, none, none⟩
    let container : Container := ⟨some "app", none, true, true⟩
    let tick : Tick := ⟨0, none, none, some (.websocket "gone"), none, none, none, "", ""⟩
    let script : StreamScript := ⟨none, none, [tick], "", none, false⟩
    let w := { World.empty with cluster := { Cluster.empty with streams := [script] } }
    let v := (openSession pod container none w).2
    (openSession pod container none w).1 = .ok ⟨script, true, "web/app"⟩ ∧
      (attach pod container none w).1 = .error (.failed (.connectionLost "gone")) ∧
      ∃ entries, (attach pod container none w).2.journal.toList =
        v.journal.toList ++ entries ++ [.traffic .streamClosed] := by
  intro pod container tick script w v
  have hopened : (openSession pod container none w).1 = .ok ⟨script, true, "web/app"⟩ := by
    decide +kernel
  have hsized : SizesSent ⟨script, true, "web/app"⟩ := fun _ => ⟨rfl, by decide⟩
  exact ⟨hopened, by decide +kernel, (attach_ending_law (Prod.ext hopened rfl) hsized).1⟩

/-- A session whose first size cannot be sent ends with that fault as it is, and only the opening of
its stream was written down. -/
theorem attach_of_unsized {fault : Fault}
    (hopened : openSession pod container command w = (.ok opened, v)) (htty : opened.tty = true)
    (hfault : opened.script.sizeFault = some fault) :
    ∃ text, attach pod container command w =
      (.error (.fault fault), v.noted [.log .info text]) := by
  obtain ⟨text, hlog⟩ := logOpened_apply command opened v
  have hbegin : beginSession opened.script opened.tty (v.noted [.log .info text]) =
      (.error (.fault fault), v.noted [.log .info text]) := by
    rw [htty]
    unfold beginSession sendTerminalSize
    rw [hfault]
    rfl
  refine ⟨text, ?_⟩
  unfold attach
  rw [bind_of_ok hopened, bind_of_ok hlog, bind_of_error hbegin]

theorem attach_size_unsent :
    let pod : Pod := ⟨some ⟨some "web", none, [], none, false⟩, none, none⟩
    let container : Container := ⟨some "app", none, true, true⟩
    let script : StreamScript := ⟨none, some (.websocket "gone"), [], "", none, false⟩
    let w := { World.empty with cluster := { Cluster.empty with streams := [script] } }
    let v := (openSession pod container none w).2
    (openSession pod container none w).1 = .ok ⟨script, true, "web/app"⟩ ∧
      (attach pod container none w).1 = .error (.fault (.websocket "gone")) ∧
      .traffic .streamClosed ∉ entriesSince v (attach pod container none w).2 := by
  intro pod container script w v
  have hopened : (openSession pod container none w).1 = .ok ⟨script, true, "web/app"⟩ := by
    decide +kernel
  have hrun : openSession pod container none w = (.ok ⟨script, true, "web/app"⟩, v) :=
    Prod.ext hopened rfl
  obtain ⟨text, hattach⟩ := attach_of_unsized hrun rfl rfl
  refine ⟨hopened, congrArg Prod.fst hattach, ?_⟩
  rw [hattach, entriesSince_eq (journal_noted _ _)]
  simp

end Session

end Session

end PodReach
