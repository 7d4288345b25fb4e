import PodReach.Discovery.Resolve
import PodReach.Proofs.World.Frames

/-!
# What a search leaves as it was

A search for a pod does nothing to the world but pause, list pods and read a pod. What these three
keep is kept by the whole search, however many rounds it takes. Choosing a container of the pod that
was found does no more than the picker does.
-/

namespace PodReach.Discovery

open Run Cluster

/-- The actions that a search is made of keep a relation. -/
structure Searched (R : World → World → Prop) : Prop where
  pause : ∀ seconds, Keeps R (Clock.pause seconds)
  list : ∀ ns labels, Keeps R (listPods ns labels)
  read : ∀ name ns, Keeps R (readPod name ns)

variable {R : World → World → Prop} [Std.Refl R] [IsTrans World R]

/-! ## Pods -/

theorem keeps_readNamedPod (h : Searched R) (name : String) (ns : Yaml) :
    Keeps R (readNamedPod name ns) := by
  refine (h.read (some name) ns).bind fun pod => ?_
  refine (keeps_need _).bind fun status => ?_
  split
  · exact keeps_throw _
  · exact keeps_pure _

theorem keeps_newestRound (h : Searched R) (s : Search) (grace start : Double) :
    Keeps R (s.newestRound grace start) := by
  refine (h.pause _).bind fun _ => ?_
  refine (h.list _ _).bind fun pods => ?_
  refine (keeps_ofExcept _).bind fun newest => ?_
  split
  · refine (keeps_need _).bind fun status => ?_
    split
    · exact keeps_pure _
    · split
      · exact keeps_throw _
      · exact keeps_pure _
  · refine Keeps.bind (keeps_of_idle Clock.read_apply) fun now => ?_
    dsimp only
    split
    · exact keeps_throw _
    · exact keeps_pure _

theorem keeps_newestRunning (h : Searched R) (s : Search) (grace start : Double) (rounds : Nat)
    (budget : Double) : Keeps R (s.newestRunning grace start rounds budget) := by
  induction rounds generalizing budget with
  | zero => exact keeps_throw _
  | succ rounds ih =>
      refine (keeps_newestRound h s grace start).bind fun found => ?_
      split
      · exact keeps_pure _
      · refine (h.pause _).bind fun _ => ?_
        dsimp only
        split
        · exact keeps_throw _
        · exact ih _

theorem keeps_afterOneRound {α : Type} (h : Searched R) (s : Search) {round : Run (Option α)}
    (mistake : Mistake) (hround : Keeps R round) : Keeps R (afterOneRound s round mistake) := by
  refine hround.bind fun found => ?_
  split
  · exact keeps_pure _
  · exact (h.pause _).bind fun _ => keeps_throw _

/-- What the rounds of a search keep is kept by finding the pod that a selector means. -/
theorem keeps_resolveNewestPod (h : Searched R) (selector : Selector) (interval grace : Double) :
    Keeps R (resolveNewestPod selector interval grace) := by
  refine Keeps.bind keeps_get fun v => ?_
  split
  · exact keeps_readNamedPod h _ _
  · refine Keeps.bind (keeps_of_idle Clock.read_apply) fun start => ?_
    split
    · exact keeps_newestRunning h _ _ _ _ _
    · exact keeps_afterOneRound h _ _ (keeps_newestRound h _ _ _)
    · exact keeps_afterOneRound h _ _ (keeps_newestRound h _ _ _)

/-! ## Containers -/

/-- Choosing a container does to the world what the picker does. -/
theorem keeps_selectContainer (pod : Pod) (selector : Selector) {picker : Picker}
    (hpicker : ∀ containers, Keeps R (picker containers)) :
    Keeps R (selectContainer pod selector (some picker)) := by
  refine (keeps_need _).bind fun spec => ?_
  split
  · exact (keeps_need _).bind fun _ => keeps_throw _
  · split
    · split
      · exact keeps_pure _
      · exact (keeps_need _).bind fun _ => keeps_throw _
    · split
      · exact keeps_pure _
      · unfold preferredContainer
        split
        · exact keeps_pure _
        · exact (hpicker _).bind fun _ => keeps_pure _

end PodReach.Discovery
