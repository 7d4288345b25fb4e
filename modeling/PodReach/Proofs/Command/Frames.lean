import PodReach.Command.Target
import PodReach.Proofs.Discovery.Frames

/-!
# What finding a target leaves as it was

To find the target of a command, pods are listed and searched for, and someone may be asked which
pod and which container it is to be. What these actions keep is kept by the whole of it.
-/

namespace PodReach.Command

open Run Discovery

/-- The actions that a target is found with keep a relation. -/
structure Targeted (R : World → World → Prop) : Prop extends Searched R where
  spinner : ∀ text, Keeps R (Console.spinner text)
  spinnerStopped : Keeps R (Console.display .spinnerStopped)
  choose : ∀ {α : Type} (message : String) (choices : List (String × α)) (preset : Option String),
    Keeps R (Console.choose message choices preset)
  nothingToChoose : Keeps R (Console.line "[yellow]⚠️  主人，没有可选的 Pod[/yellow]")
  nothingRuns : ∀ ns : String, Keeps R (Console.warning s!"命名空间 {ns} 中没有运行中的 Pod")

variable {R : World → World → Prop} [Std.Refl R] [IsTrans World R]

theorem keeps_choosePod (h : Targeted R) (pods : List Pod) (message : String) :
    Keeps R (Pod.choose pods message) := by
  unfold Pod.choose
  split
  · exact h.nothingToChoose.bind fun _ => keeps_pure _
  · exact keeps_pure _
  · exact (keeps_need _).bind fun _ => h.choose _ _ _

theorem keeps_containerPicker (h : Targeted R) (interactive : Bool) (containers : List Container) :
    Keeps R (containerPicker interactive containers) := by
  refine h.spinnerStopped.bind fun _ => ?_
  split
  · unfold Container.choose
    split
    · exact keeps_pure _
    · exact keeps_pure _
    · exact h.choose _ _ _
  · exact keeps_pure _

theorem keeps_chooseSelector (h : Targeted R) (selector : Selector) :
    Keeps R (chooseSelector selector) := by
  refine keeps_get.bind fun v => (h.list _ _).bind fun pods => ?_
  refine (keeps_need _).bind fun statuses => ?_
  dsimp only
  split
  · exact (h.nothingRuns _).bind fun _ => keeps_pure _
  · refine (keeps_choosePod h _ _).bind fun chosen => ?_
    split
    · exact keeps_pure _
    · exact (keeps_need _).bind fun _ => keeps_pure _

theorem keeps_resolveSelector (h : Targeted R) (selector : Selector) (interactive : Bool) :
    Keeps R (resolveSelector selector interactive) := by
  refine (h.spinner _).bind fun _ => ?_
  refine (keeps_resolveNewestPod h.toSearched _ _ _).bind fun pod => ?_
  refine (keeps_selectContainer pod selector ?_).bind fun _ => keeps_pure _
  exact keeps_containerPicker h interactive

/-- What its parts keep is kept by finding a target. -/
theorem keeps_resolveTarget (h : Targeted R) (selector : Selector) (interactive : Bool) :
    Keeps R (resolveTarget selector interactive) := by
  unfold resolveTarget
  split
  · refine (keeps_chooseSelector h selector).bind fun chosen => ?_
    split
    · exact keeps_pure _
    · exact (keeps_resolveSelector h _ _).bind fun _ => keeps_pure _
  · exact (keeps_resolveSelector h _ _).bind fun _ => keeps_pure _

end PodReach.Command
