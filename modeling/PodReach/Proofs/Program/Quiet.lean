import PodReach.Command.Container
import PodReach.Command.Forward
import PodReach.Command.Pods
import PodReach.Proofs.Forward.Frames
import PodReach.Proofs.Session.Frames
import PodReach.Proofs.World.Quiet

/-!
# The quiet parts of the commands

Tables and prompts, everything that goes on in a session once its stream is open, and everything
about a forwarding run except opening a tunnel and reading the pod: none of it asks the cluster, and
none of it reports an error.
-/

namespace PodReach

open Run World

/-! ## Tables and prompts -/

theorem Pod.quiet_showTable (pods : List Pod) (title : String) :
    Keeps Quiet (Pod.showTable pods title) :=
  keeps_get.bind fun _ => (keeps_need _).bind fun _ => quiet_table _

theorem Pod.quiet_choose (pods : List Pod) (message : String) :
    Keeps Quiet (Pod.choose pods message) := by
  unfold Pod.choose
  split
  · refine (quiet_line "[yellow]" ?_ (by decide)).bind fun _ => keeps_pure _
    simp
  · exact keeps_pure _
  · exact (keeps_need _).bind fun _ => PodReach.quiet_choose _ _ _

theorem Container.quiet_choose (containers : List Container) (message : String) :
    Keeps Quiet (Container.choose containers message) := by
  unfold Container.choose
  split
  · exact keeps_pure _
  · exact keeps_pure _
  · exact PodReach.quiet_choose _ _ _

namespace Command

theorem quiet_containerPicker (interactive : Bool) (containers : List Container) :
    Keeps Quiet (containerPicker interactive containers) := by
  refine (quiet_display rfl).bind fun _ => ?_
  split
  · exact Container.quiet_choose _ _
  · exact keeps_pure _

theorem quiet_warnAboutBroken (pods : List Pod) : Keeps Quiet (warnAboutBroken pods) := by
  refine (keeps_need _).bind fun broken => ?_
  dsimp only
  split
  · refine quiet_emptyLine.bind fun _ => keeps_forM fun entry _ => ?_
    exact quiet_warning _
  · exact keeps_pure _

theorem quiet_warnIfReachable (address : Yaml) : Keeps Quiet (warnIfReachable address) := by
  unfold warnIfReachable
  dsimp only
  split
  · exact quiet_warning _
  · exact keeps_pure _

theorem quiet_reportForwarding (podName : String) (addresses : List String)
    (ports : List Forward.Port) :
    Keeps Quiet (reportForwarding podName addresses ports) := by
  refine quiet_emptyLine.bind fun _ => ?_
  refine (keeps_forM fun port _ => quiet_info _).bind fun _ => ?_
  exact quiet_line "[dim]" (by simp) (by decide)

theorem quiet_printLine (line : String) : Keeps Quiet (printLine line) :=
  quiet_styled _ _

end Command

/-! ## Sessions -/

namespace Session

theorem quiet_warnUnlessInteractive (container : Container) :
    Keeps Quiet (warnUnlessInteractive container) := by
  unfold warnUnlessInteractive
  dsimp only
  split
  · exact quiet_warning _
  · exact keeps_pure _

theorem quiet_carried : Carried Quiet where
  log := quiet_log
  traffic _ _ := quiet_record rfl
  advance := quiet_advance
  input _ _ _ := quiet_of_same rfl rfl rfl rfl
  size _ _ := quiet_of_same rfl rfl rfl rfl

theorem quiet_logOpened (command : Option (List String)) (opened : Opened) :
    Keeps Quiet (logOpened command opened) :=
  keeps_logOpened quiet_carried command opened

theorem quiet_beginSession (script : StreamScript) (tty : Bool) :
    Keeps Quiet (beginSession script tty) :=
  keeps_beginSession quiet_carried script tty

theorem quiet_runSession (script : StreamScript) (tty : Bool) (label : String) :
    Keeps Quiet (runSession script tty label) :=
  keeps_runSession quiet_carried ((quiet_record rfl).bind fun _ _ => quiet_of_same rfl rfl rfl rfl)
    (fun _ => (quiet_record rfl).bind fun _ _ => quiet_of_same rfl rfl rfl rfl) script tty label

theorem quiet_endSession (tty : Bool) : Keeps Quiet (endSession tty) :=
  keeps_endSession quiet_carried tty

end Session

/-! ## Forwarding -/

namespace Forward

theorem quiet_handled : Handled Quiet where
  log := quiet_log
  traffic _ _ := quiet_record rfl
  makeSocket := quiet_makeSocket
  takeSocket := quiet_takeSocket
  closeSocket := quiet_closeSocket
  listen := quiet_listen
  nextArrival := quiet_nextArrival

theorem quiet_closeConnection (h : Handler) : Keeps Quiet (closeConnection h) :=
  keeps_closeConnection quiet_handled h

theorem quiet_relay (h : Handler) (remote : Nat) (report : Option String) (stopped : Bool) :
    Keeps Quiet (relay h remote report stopped) :=
  keeps_relay quiet_handled h remote report stopped

theorem quiet_release (job : Job) (f : Forwarder) : Keeps Quiet (release job f) :=
  keeps_release quiet_handled job f

theorem quiet_finish (job : Job) (ending : Ending) (f : Forwarder) :
    Keeps Quiet (finish job ending f) :=
  keeps_finish quiet_handled job ending f

theorem quiet_start (job : Job) : Keeps Quiet (start job) :=
  keeps_start quiet_handled fun _ _ _ => quiet_record rfl

end Forward

end PodReach
