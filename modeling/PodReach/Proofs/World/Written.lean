import PodReach.Proofs.World.Quiet

/-!
# What is written down

A run writes down nothing but entries of some kind if its parts write down nothing else. The
elementary actions write down one entry at most.
-/

namespace PodReach

open Run

namespace World

variable {P Q : Entry → Prop} {w w' w'' : World}

/-- Between two worlds only entries of a kind were written down. -/
def Wrote (P : Entry → Prop) (w w' : World) : Prop :=
  ∃ entries, w'.journal.toList = w.journal.toList ++ entries ∧ ∀ entry ∈ entries, P entry

namespace Wrote

theorem refl (w : World) : Wrote P w w :=
  ⟨[], by simp, by simp⟩

theorem trans (h : Wrote P w w') (h' : Wrote P w' w'') : Wrote P w w'' := by
  obtain ⟨first, hfirst, hkind⟩ := h
  obtain ⟨second, hsecond, hkind'⟩ := h'
  refine ⟨first ++ second, ?_, List.forall_mem_append.mpr ⟨hkind, hkind'⟩⟩
  rw [hsecond, hfirst, List.append_assoc]

instance : Std.Refl (Wrote P) :=
  ⟨refl⟩

instance : IsTrans World (Wrote P) :=
  ⟨fun _ _ _ => trans⟩

theorem mono (h : Wrote P w w') (hkind : ∀ entry, P entry → Q entry) : Wrote Q w w' := by
  obtain ⟨entries, hentries, hall⟩ := h
  exact ⟨entries, hentries, fun entry hentry => hkind entry (hall entry hentry)⟩

theorem grew (h : Wrote P w w') : w.Grew w' := by
  obtain ⟨entries, hentries, -⟩ := h
  exact ⟨entries, hentries.symm⟩

theorem of_mem (h : Wrote P w w') : ∀ entry ∈ entriesSince w w', P entry := by
  obtain ⟨entries, hentries, hall⟩ := h
  rwa [entriesSince_eq hentries]

end Wrote

/-- What was written down after a world is what one part wrote and then what the other wrote. -/
theorem entriesSince_trans (h : w.Grew w') (h' : w'.Grew w'') :
    entriesSince w w'' = entriesSince w w' ++ entriesSince w' w'' := by
  obtain ⟨later, hlater⟩ := h'
  rw [entriesSince_append h hlater.symm, entriesSince_eq hlater.symm]

end World

open World

/-! ## Elementary actions -/

section Written

variable {α : Type} {P : Entry → Prop}

theorem wrote_of_same {action : Run α} (h : ∀ w, (action w).2.journal = w.journal) :
    Keeps (Wrote P) action :=
  fun w => ⟨[], by rw [h, List.append_nil], by simp⟩

theorem wrote_record {entry : Entry} (h : P entry) : Keeps (Wrote P) (record entry) := by
  intro w
  rw [record_apply]
  exact ⟨[entry], journal_noted w _, by simpa using h⟩

theorem wrote_line {text : String} (h : P (.display (.line text))) :
    Keeps (Wrote P) (Console.line text) :=
  Console.keeps_line (wrote_record h) (wrote_of_same fun _ => rfl)

theorem wrote_choose {message : String} {choices : List (String × α)} {preset : Option String}
    (h : P (.display (.choice message (choices.map (·.1)) preset))) :
    Keeps (Wrote P) (Console.choose message choices preset) :=
  Console.keeps_choose (wrote_record h) fun _ => wrote_of_same fun _ => rfl

theorem wrote_spinner {text : String} (h : P (.display (.spinner text))) :
    Keeps (Wrote P) (Console.spinner text) :=
  Console.keeps_spinner (wrote_record h)

theorem wrote_openFile (name : String) : Keeps (Wrote P) (Log.openFile name) :=
  wrote_of_same fun w => by
    obtain ⟨logs, hworld⟩ := Log.openFile_world name w
    rw [hworld]

theorem wrote_pause {seconds : Double} (h : P (.slept seconds)) :
    Keeps (Wrote P) (Clock.pause seconds) :=
  (wrote_record h).bind fun _ => wrote_of_same fun _ => rfl

theorem wrote_request {service : Service} {call : Call} (h : P (.call call)) :
    Keeps (Wrote P) (Cluster.request service call) := by
  refine (wrote_record h).bind fun _ => ?_
  refine Keeps.bind keeps_get fun v => ?_
  exact (wrote_of_same fun _ => rfl).bind fun _ => keeps_unlessBroken _

theorem wrote_listPods {ns : Yaml} {labels : String} (h : P (.call (.listPods ns labels))) :
    Keeps (Wrote P) (Cluster.listPods ns labels) := by
  refine (wrote_request h).bind fun _ => ?_
  refine Keeps.bind keeps_get fun v => ?_
  refine (wrote_of_same fun _ => rfl).bind fun _ => ?_
  split
  · exact keeps_pure _
  · exact keeps_throw _

theorem wrote_readPod {name : Option String} {ns : Yaml} (h : P (.call (.readPod name ns))) :
    Keeps (Wrote P) (Cluster.readPod name ns) := by
  refine (wrote_request h).bind fun _ => ?_
  refine Keeps.bind keeps_get fun v => ?_
  unfold Cluster.found
  split
  · exact keeps_pure _
  · exact keeps_throw _

/-! ## Sockets -/

theorem wrote_makeSocket (address : String) : Keeps (Wrote P) (Network.makeSocket address) := by
  refine Keeps.bind keeps_get fun v => ?_
  dsimp only
  split
  · exact (wrote_of_same fun _ => rfl).bind fun _ => keeps_pure _
  · exact (wrote_of_same fun _ => rfl).bind fun _ => keeps_pure _

theorem wrote_takeSocket : Keeps (Wrote P) Network.takeSocket :=
  wrote_of_same fun _ => rfl

theorem wrote_closeSocket (number : Nat) : Keeps (Wrote P) (Network.closeSocket number) :=
  wrote_of_same fun _ => rfl

theorem wrote_listen (socket : Nat) (address : String) (requested : Nat) :
    Keeps (Wrote P) (Network.listen socket address requested) := by
  refine Keeps.bind keeps_get fun v => ?_
  dsimp only
  split
  · exact keeps_pure _
  · refine (wrote_of_same fun _ => rfl).bind fun _ => ?_
    split
    · exact keeps_pure _
    · exact (wrote_of_same fun _ => rfl).bind fun _ => keeps_pure _

theorem wrote_nextArrival (endpoint : String) :
    Keeps (Wrote P) (Network.nextArrival endpoint) := by
  refine Keeps.bind keeps_get fun v => ?_
  split
  · exact (wrote_of_same fun _ => rfl).bind fun _ => keeps_pure _
  · exact keeps_pure _

end Written

end PodReach
