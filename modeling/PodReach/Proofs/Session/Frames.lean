import PodReach.Proofs.World.Frames
import PodReach.Session.Attach

/-!
# What a session leaves as it was

Once its stream is open a session is made of a few kinds of actions: it logs, it writes down what
passes between its two ends, time passes, local input arrives and is read, and the local terminal
changes its size. What all of these keep is kept by the whole session, if making the terminal raw
and restoring it keep it as well.
-/

namespace PodReach.Session

open Run

/-- Whether something at the ends of a session is that the terminal becomes raw or is restored. -/
def ofRawMode : Traffic → Bool
  | .rawEntered => true
  | .rawLeft => true
  | _ => false

/-- The actions that a session is made of keep a relation, apart from those that change the
attributes of the terminal. Local input that arrives or is read stays on a terminal if it was on
one. -/
structure Carried (R : World → World → Prop) : Prop where
  log : ∀ level text, Keeps R (Log.write level text)
  traffic : ∀ t, ofRawMode t = false → Keeps R (record (.traffic t))
  advance : ∀ seconds, Keeps R (Clock.advance seconds)
  input : ∀ change : StandardInput → StandardInput,
    (∀ stdin, onTerminal (change stdin) = onTerminal stdin) →
      Keeps R (modify fun w => { w with stdin := change w.stdin } : Run Unit)
  size : ∀ size, Keeps R (modify fun w => { w with terminalSize := size } : Run Unit)

variable {R : World → World → Prop} [Std.Refl R] [IsTrans World R]

/-! ## Relaying -/

theorem keeps_sendTerminalSize (h : Carried R) (sendFault : Option Fault) :
    Keeps R (sendTerminalSize sendFault) :=
  (keeps_unlessBroken _).bind fun _ => keeps_get.bind fun _ => h.traffic _ rfl

theorem keeps_sendInput (h : Carried R) (sendFault : Option Fault) (text : List Char) :
    Keeps R (sendInput sendFault text) :=
  (keeps_unlessBroken _).bind fun _ => h.traffic _ rfl

theorem onTerminal_queueInput (input : Input) (stdin : StandardInput) :
    onTerminal (queueInput input stdin) = onTerminal stdin := by
  unfold queueInput
  split
  · rfl
  · cases input <;> rfl

theorem keeps_applyTick (h : Carried R) (tick : Tick) : Keeps R (applyTick tick) := by
  refine (h.advance _).bind fun _ => (keeps_unlessBroken _).bind fun _ => ?_
  split
  · exact h.input _ (onTerminal_queueInput _)
  · exact keeps_pure _

theorem keeps_resize (h : Carried R) (watching : Bool) (tick : Tick) :
    Keeps R (resize watching tick) := by
  unfold resize
  split
  · refine (h.size _).bind fun _ => ?_
    split
    · exact keeps_sendTerminalSize h _
    · exact keeps_pure _
  · exact keeps_pure _

theorem keeps_inRelay {α : Type} {action : Run α} (h : Keeps R action) :
    Keeps R (inRelay action) :=
  h.tryCatch fun _ => keeps_throw _

theorem keeps_writeOutput (h : Carried R) (tick : Tick) : Keeps R (writeOutput tick) := by
  refine (keeps_unlessBroken _).bind fun _ => ?_
  exact keeps_when (h.traffic _ rfl) (keeps_when (h.traffic _ rfl) (keeps_pure _))

theorem keeps_readInput (h : Carried R) : Keeps R readInput := by
  have hread (pieces : List (List UInt8)) :
      Keeps R (modify fun w => { w with stdin := { w.stdin with pieces := pieces } } : Run Unit) :=
    h.input (fun stdin => { stdin with pieces := pieces }) fun _ => rfl
  refine keeps_get.bind fun v => ?_
  dsimp only
  split
  · exact (hread _).bind fun _ => keeps_pure _
  · exact keeps_pure _

theorem keeps_forwardInput (h : Carried R) (closeOnEnd : Bool) (sendFault : Option Fault)
    (state : Relaying) : Keeps R (forwardInput closeOnEnd sendFault state) := by
  have hclock : Keeps R (some <$> Clock.read) :=
    Keeps.bind (keeps_of_idle Clock.read_apply) fun _ => keeps_pure _
  have hsince : Keeps R (do
      let since ← if closeOnEnd then some <$> Clock.read else pure none
      return { state with reading := false, silentSince := since }) := by
    split
    · exact hclock.bind fun _ => keeps_pure _
    · exact keeps_pure _
  refine (keeps_readInput h).bind fun bytes => ?_
  split
  · exact keeps_pure _
  · exact keeps_when (keeps_sendInput h _ _) hsince
  · exact (keeps_sendInput h _ _).bind fun _ => keeps_pure _

theorem keeps_afterUpdate (h : Carried R) (closeOnEnd received : Bool) (sendFault : Option Fault)
    (state : Relaying) : Keeps R (afterUpdate closeOnEnd received sendFault state) := by
  unfold afterUpdate
  split
  · refine Keeps.bind (keeps_of_idle Clock.read_apply) fun now => ?_
    split
    · exact keeps_pure _
    · split
      · exact (h.traffic _ rfl).bind fun _ => keeps_pure _
      · exact keeps_pure _
  · split
    · exact (keeps_forwardInput h _ _ _).bind fun _ => keeps_pure _
    · exact keeps_pure _

theorem keeps_relayOnce (h : Carried R) (watching closeOnEnd : Bool) (state : Relaying)
    (tick : Tick) : Keeps R (relayOnce watching closeOnEnd state tick) := by
  have hserve : Keeps R (serveTick closeOnEnd state tick) :=
    (keeps_writeOutput h _).bind fun received => keeps_afterUpdate h _ _ _ _
  refine ((keeps_inRelay (keeps_applyTick h _)).bind fun _ => keeps_resize h _ _).bind fun _ => ?_
  exact keeps_inRelay hserve

theorem keeps_relayTicks (h : Carried R) (watching closeOnEnd : Bool) (state : Relaying)
    (ticks : List Tick) : Keeps R (relayTicks watching closeOnEnd state ticks) := by
  induction ticks generalizing state with
  | nil => exact keeps_pure _
  | cons tick rest ih =>
      refine (keeps_relayOnce h _ _ _ _).bind fun next => ?_
      split
      · exact ih _
      · exact keeps_pure _

theorem keeps_relay (h : Carried R) (watching closeOnEnd : Bool) (script : StreamScript) :
    Keeps R (relay watching closeOnEnd script) := by
  refine keeps_get.bind fun v => ?_
  refine (keeps_relayTicks h _ _ _ _).bind fun _ => ?_
  exact (keeps_unlessBroken _).bind fun _ => keeps_ofExcept _

/-! ## From the opening of the stream to its end -/

omit [Std.Refl R] [IsTrans World R] in
theorem keeps_logOpened (h : Carried R) (command : Option (List String)) (opened : Opened) :
    Keeps R (logOpened command opened) :=
  h.log _ _

theorem keeps_beginSession (h : Carried R) (script : StreamScript) (tty : Bool) :
    Keeps R (beginSession script tty) := by
  unfold beginSession
  split
  · exact (keeps_sendTerminalSize h _).bind fun _ => h.traffic _ rfl
  · exact keeps_pure _

omit [IsTrans World R] in
theorem keeps_awaitRelay (script : StreamScript) (outcome : Except Halt (Option Int)) :
    Keeps R (awaitRelay script outcome) := by
  unfold awaitRelay
  split
  · exact keeps_throw _
  · exact keeps_ofExcept _

theorem keeps_reportEnding (h : Carried R) (label : String) (outcome : Except Halt (Option Int)) :
    Keeps R (reportEnding label outcome) := by
  unfold reportEnding
  split
  · exact (h.log _ _).bind fun _ => keeps_pure _
  · exact (h.log _ _).bind fun _ => keeps_throw _
  · exact keeps_throw _

omit [Std.Refl R] in
theorem keeps_endSession (h : Carried R) (tty : Bool) : Keeps R (endSession tty) := by
  unfold endSession
  exact keeps_when (h.traffic _ rfl) (h.traffic _ rfl)

theorem keeps_withRawTerminal {α : Type} (hraw : Keeps R makeRaw)
    (hrestored : ∀ saved, Keeps R (restoreTerminal saved)) (raw : Bool) {action : Run α}
    (haction : Keeps R action) : Keeps R (withRawTerminal raw action) := by
  unfold withRawTerminal
  split
  · exact keeps_get.bind fun v => (hraw.bind fun _ => haction).always (hrestored _)
  · exact haction

/-- What a session keeps that changes the attributes of the terminal, if at all, in a way that keeps
it too. -/
theorem keeps_runSession (h : Carried R) (hraw : Keeps R makeRaw)
    (hrestored : ∀ saved, Keeps R (restoreTerminal saved)) (script : StreamScript) (tty : Bool)
    (label : String) : Keeps R (runSession script tty label) := by
  refine (keeps_relay h _ _ _).attempt.bind fun relayed => keeps_get.bind fun v => ?_
  refine (keeps_withRawTerminal hraw hrestored _ (keeps_awaitRelay script relayed)).attempt.bind
    fun outcome => ?_
  exact keeps_reportEnding h _ _

end PodReach.Session
