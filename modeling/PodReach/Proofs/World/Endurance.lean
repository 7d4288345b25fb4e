import PodReach.Proofs.Outcome
import PodReach.Proofs.World.Sound

/-!
# What can come of an action in a sound world

What an action may come to in a sound world is said by two conditions, one on its result and one on
the halts that it may end with, and both are put together from its parts. Whatever the action does,
the world stays sound, and the answers at the prompts are taken in order.
-/

namespace PodReach

open Run

/-! ## What an action may come to -/

namespace Run

variable {α β : Type} {w₀ : World} {E E' : Halt → Prop} {P P' : α → Prop} {Q : β → Prop}
  {action : Run α} {next : α → Run β}

/-- An outcome with a result of one kind or a halt of another. -/
def Within (E : Halt → Prop) (P : α → Prop) : Except Halt α → Prop
  | .ok a => P a
  | .error halt => E halt

/-- In every sound world after another one, an action leads to a sound world again, and it comes to
a result of one kind or to a halt of another. -/
def Endures (w₀ : World) (E : Halt → Prop) (P : α → Prop) (action : Run α) : Prop :=
  ∀ w, w₀.Precedes w → w₀.Precedes (action w).2 ∧ Within E P (action w).1

/-- Nothing is known about a result. -/
abbrev Whatever (_ : α) : Prop := True

theorem Endures.bind (h : Endures w₀ E P action) (hnext : ∀ a, P a → Endures w₀ E Q (next a)) :
    Endures w₀ E Q (action >>= next) := by
  intro w hw
  obtain ⟨hworld, houtcome⟩ := h w hw
  rw [bind_apply]
  rcases hrun : action w with ⟨halt | a, w'⟩ <;> rw [hrun] at hworld houtcome
  · exact ⟨hworld, houtcome⟩
  · exact hnext a houtcome w' hworld

theorem Endures.mono (h : Endures w₀ E P action) (hE : ∀ halt, E halt → E' halt)
    (hP : ∀ a, P a → P' a) : Endures w₀ E' P' action := by
  intro w hw
  obtain ⟨hworld, houtcome⟩ := h w hw
  refine ⟨hworld, ?_⟩
  rcases hrun : (action w).1 with halt | a <;> rw [hrun] at houtcome
  · exact hE halt houtcome
  · exact hP a houtcome

theorem Endures.whatever (h : Endures w₀ E P action) : Endures w₀ E Whatever action :=
  h.mono (fun _ => id) fun _ _ => trivial

/-- An outcome that is taken as a value is within the same bounds. -/
theorem Endures.attempt (h : Endures w₀ E P action) :
    Endures w₀ E' (Within E P) (attempt action) :=
  fun w hw => ⟨(h w hw).1, (h w hw).2⟩

theorem Endures.tryCatch {handler : Halt → Run α} (h : Endures w₀ E' P action)
    (hhandler : ∀ halt, E' halt → Endures w₀ E P (handler halt)) :
    Endures w₀ E P (tryCatch action handler) := by
  intro w hw
  obtain ⟨hworld, houtcome⟩ := h w hw
  rw [tryCatch_apply]
  rcases hrun : action w with ⟨halt | a, w'⟩ <;> rw [hrun] at hworld houtcome
  · exact hhandler halt houtcome w' hworld
  · exact ⟨hworld, houtcome⟩

theorem Endures.always {cleanup : Run Unit} (h : Endures w₀ E P action)
    (hclean : Endures w₀ E Whatever cleanup) : Endures w₀ E P (always action cleanup) := by
  intro w hw
  obtain ⟨hworld, houtcome⟩ := h w hw
  obtain ⟨hlast, hcleaned⟩ := hclean _ hworld
  refine ⟨by rw [always_world]; exact hlast, ?_⟩
  unfold Run.always
  rcases hrun : action w with ⟨halt | a, w'⟩ <;> rw [hrun] at houtcome hcleaned <;>
    rcases hend : cleanup w' with ⟨later | _, w''⟩ <;> rw [hend] at hcleaned <;>
    simp only [hend]
  · exact hcleaned
  · exact houtcome
  · exact hcleaned
  · exact houtcome

theorem endures_pure {a : α} (h : P a) : Endures w₀ E P (pure a) :=
  fun _ hw => ⟨hw, h⟩

/-- Nothing has every property that a result has if there is one. -/
theorem endures_none : Endures w₀ E (fun found => ∀ a, found = some a → P a) (pure none) :=
  endures_pure fun a h => by cases h

theorem endures_throw {halt : Halt} (h : E halt) : Endures w₀ E P (throw halt) :=
  fun _ hw => ⟨hw, h⟩

theorem endures_get : Endures w₀ E w₀.Precedes (get : Run World) :=
  fun _ hw => ⟨hw, hw⟩

theorem endures_modify {change : World → World}
    (h : ∀ w, w₀.Precedes w → w₀.Precedes (change w)) :
    Endures w₀ E Whatever (modify change : Run Unit) :=
  fun w hw => ⟨h w hw, trivial⟩

theorem endures_ofExcept {outcome : Except Halt α} (h : Within E P outcome) :
    Endures w₀ E P (ofExcept outcome : Run α) := by
  intro w hw
  rw [ofExcept_apply]
  exact ⟨hw, h⟩

theorem endures_need {part : Option α} (h : ∃ a, part = some a ∧ P a) :
    Endures w₀ E P (need part) := by
  obtain ⟨a, rfl, ha⟩ := h
  exact endures_pure ha

/-- A part that is there is all that is needed. -/
theorem endures_need_isSome {part : Option α} (h : part.isSome) :
    Endures w₀ E Whatever (need part) := by
  obtain ⟨a, ha⟩ := Option.isSome_iff_exists.mp h
  exact endures_need ⟨a, ha, trivial⟩

/-- What all elements of a list have is collected. -/
theorem endures_need_mapM {read : β → Option α} {l : List β}
    (h : ∀ b ∈ l, ∃ a, read b = some a) :
    Endures w₀ E (fun parts => parts = l.filterMap read) (need (l.mapM read)) :=
  endures_need ⟨_, Outcome.mapM_eq_filterMap h, rfl⟩

theorem endures_unlessBroken {fault : Option Fault} (h : ∀ f, fault = some f → E (.fault f)) :
    Endures w₀ E Whatever (unlessBroken fault) := by
  cases fault with
  | none => exact endures_pure trivial
  | some f => exact endures_throw (h f rfl)

theorem endures_forM {l : List β} {body : β → Run PUnit}
    (h : ∀ b ∈ l, Endures w₀ E Whatever (body b)) : Endures w₀ E Whatever (l.forM body) := by
  induction l with
  | nil => exact endures_pure trivial
  | cons b l ih =>
      have hrest : Endures w₀ E Whatever (l.forM body) :=
        ih fun c hc => h c (List.mem_cons_of_mem b hc)
      exact (h b List.mem_cons_self).bind fun _ _ => hrest

/-- An action that is done only under a condition may come first. -/
theorem endures_when {c : Prop} [Decidable c] {first : Run PUnit} {next : PUnit → Run α}
    (hfirst : Endures w₀ E Whatever first) (hnext : Endures w₀ E P (next ⟨⟩)) :
    Endures w₀ E P (if c then first >>= next else next ⟨⟩) := by
  split
  · exact hfirst.bind fun _ _ => hnext
  · exact hnext

end Run

/-! ## Elementary actions -/

section Elementary

variable {α : Type} {w₀ : World} {E : Halt → Prop}

theorem endures_record (entry : Entry) : Endures w₀ E Whatever (record entry) :=
  endures_modify fun _ hw => hw.of_same rfl rfl rfl ⟨rfl, rfl, rfl, rfl⟩

theorem endures_log (level : Level) (text : String) :
    Endures w₀ E Whatever (Log.write level text) :=
  endures_record _

theorem endures_display (d : Display) : Endures w₀ E Whatever (Console.display d) :=
  endures_record _

theorem endures_interruptAfter (text : String) :
    Endures w₀ (Tolerable w₀) Whatever (Console.interruptAfter text) := by
  refine endures_get.bind fun w _ => ?_
  cases w.interruptOn with
  | none => exact endures_pure trivial
  | some awaited =>
      dsimp only
      split
      · refine (endures_modify fun v hv => ?_).bind fun _ _ => endures_throw .interrupted
        exact hv.goes_on rfl (List.suffix_refl _) (Or.inr rfl) ⟨rfl, rfl, rfl, rfl⟩
      · exact endures_pure trivial

/-- Texts are rendered, unless one of them cannot be. -/
theorem endures_render (texts : List String) :
    Endures w₀ (Tolerable w₀) Whatever (Console.render texts) := by
  refine endures_get.bind fun w hw => ?_
  dsimp only
  split
  · rename_i text hfind
    have hrenders : w.markup.renders text = false := by simpa using List.find?_some hfind
    exact endures_throw (.unrendered (hw.machine.markup ▸ hrenders))
  · exact endures_pure trivial

theorem endures_line (text : String) : Endures w₀ (Tolerable w₀) Whatever (Console.line text) :=
  (endures_render _).bind fun _ _ => (endures_record _).bind fun _ _ => endures_interruptAfter text

theorem endures_table (t : Table) : Endures w₀ (Tolerable w₀) Whatever (Console.table t) :=
  (endures_render _).bind fun _ _ => endures_record _

theorem endures_spinner (text : String) :
    Endures w₀ (Tolerable w₀) Whatever (Console.spinner text) :=
  (endures_render _).bind fun _ _ => endures_record _

theorem endures_styled (text : String) (style : Option String) :
    Endures w₀ (Tolerable w₀) Whatever (Console.styled text style) :=
  (endures_record _).bind fun _ _ => endures_interruptAfter text

/-- An answer is taken from those that are left. -/
theorem endures_nextAnswer : Endures w₀ (Tolerable w₀) Whatever Console.nextAnswer := by
  intro w hw
  unfold Console.nextAnswer
  rw [bind_of_ok (get_apply w)]
  cases hanswers : w.answers with
  | nil => exact ⟨hw, .interrupted⟩
  | cons answer rest =>
      have hleft : (answer :: rest) <:+ w₀.answers := hanswers ▸ hw.answers
      have hrest : w₀.Precedes { w with answers := rest } :=
        hw.goes_on rfl (hanswers ▸ List.suffix_cons answer rest) (Or.inl rfl) ⟨rfl, rfl, rfl, rfl⟩
      cases answer with
      | pick index => exact ⟨hrest, trivial⟩
      | typed text => exact ⟨hrest, trivial⟩
      | interrupt => exact ⟨hrest, .interrupted⟩
      | endOfInput => exact ⟨hrest, .inputEnded (hleft.subset List.mem_cons_self)⟩

theorem endures_ask (message : String) :
    Endures w₀ (Tolerable w₀) Whatever (Console.ask message) := by
  refine (endures_display _).bind fun _ _ => endures_nextAnswer.bind fun answer _ => ?_
  cases answer with
  | typed text => exact endures_pure trivial
  | _ => exact endures_throw .interrupted

/-- What is chosen is one of the choices. -/
theorem endures_choose (message : String) (choices : List (String × α)) (preset : Option String) :
    Endures w₀ (Tolerable w₀) (fun a => ∃ name, (name, a) ∈ choices)
      (Console.choose message choices preset) := by
  refine (endures_display _).bind fun _ _ => endures_nextAnswer.bind fun answer _ => ?_
  cases answer with
  | pick index =>
      cases hchoice : choices[index]? with
      | some choice =>
          simp only [hchoice]
          exact endures_pure ⟨choice.1, List.mem_of_getElem? hchoice⟩
      | none =>
          simp only [hchoice]
          exact endures_throw .interrupted
  | _ => exact endures_throw .interrupted

theorem endures_advance (seconds : Double) : Endures w₀ E Whatever (Clock.advance seconds) :=
  endures_modify fun _ hw => hw.of_same rfl rfl rfl ⟨rfl, rfl, rfl, rfl⟩

theorem endures_pause (seconds : Double) : Endures w₀ E Whatever (Clock.pause seconds) :=
  (endures_record _).bind fun _ _ => endures_advance _

theorem endures_readClock : Endures w₀ E Whatever Clock.read :=
  endures_get.bind fun _ _ => endures_pure trivial

/-- The log file of a name is opened, unless that is refused. -/
theorem endures_openFile {name : String} (hname : LogFile.isAskable name = true) :
    Endures w₀ (Tolerable w₀) Whatever (Log.openFile name) := by
  refine endures_get.bind fun w hw => ?_
  dsimp only
  have hopened : Within (Tolerable w₀) Whatever
      (LogFile.openIn (w.logFault w.logDirectory name) w.logDirectory name w.logs) := by
    cases hopen : LogFile.openIn (w.logFault w.logDirectory name) w.logDirectory name w.logs with
    | ok found => trivial
    | error halt =>
        obtain ⟨directory, hdirectory, haskable⟩ := hw.sound_after.logDirectory
        obtain ⟨detail, rfl⟩ := LogFile.fault_of_openIn (hdirectory ▸ hopen) haskable hname
        exact .raised (hw.raises (.logFile hopen))
  refine (endures_ofExcept hopened).bind fun opened _ => endures_modify fun v hv => ?_
  exact hv.of_same rfl rfl rfl ⟨rfl, rfl, rfl, rfl⟩

end Elementary

/-! ## Sockets -/

namespace Network

variable {w₀ : World} {E : Halt → Prop}

theorem endures_setSockets (sockets : Sockets) : Endures w₀ E Whatever (setSockets sockets) :=
  endures_modify fun _ hw => hw.of_same rfl rfl rfl ⟨rfl, rfl, rfl, rfl⟩

theorem endures_makeSocket (address : String) : Endures w₀ E Whatever (makeSocket address) := by
  refine endures_get.bind fun w _ => ?_
  dsimp only
  split <;> exact (endures_setSockets _).bind fun _ _ => endures_pure trivial

theorem endures_takeSocket : Endures w₀ E Whatever takeSocket :=
  endures_get.bind fun _ _ => (endures_setSockets _).bind fun _ _ => endures_pure trivial

theorem endures_closeSocket (number : Nat) : Endures w₀ E Whatever (closeSocket number) :=
  endures_get.bind fun _ _ => endures_setSockets _

/-- An address that names a host is listened on, or that is refused. -/
theorem endures_listen (socket : Nat) {address : String} (requested : Nat)
    (h : w₀.network.takesHost address = true) :
    Endures w₀ E (fun bound => bound ≠ .error .noHost) (listen socket address requested) := by
  refine endures_get.bind fun w hw => ?_
  dsimp only
  rw [hw.machine.takesHost, h, Bool.not_true, if_neg Bool.false_ne_true]
  refine Endures.bind (P := Whatever) (endures_modify fun v hv => ?_) fun _ _ => ?_
  · exact hv.of_same rfl rfl rfl ⟨rfl, rfl, rfl, rfl⟩
  · split
    · exact endures_pure nofun
    · exact (endures_setSockets _).bind fun _ _ => endures_pure nofun

theorem endures_nextArrival (endpoint : String) :
    Endures w₀ E Whatever (nextArrival endpoint) := by
  refine endures_get.bind fun w _ => ?_
  split
  · refine (endures_modify fun v hv => ?_).bind fun _ _ => endures_pure trivial
    exact hv.of_same rfl rfl rfl ⟨rfl, rfl, rfl, rfl⟩
  · exact endures_pure trivial

end Network

/-! ## Calls -/

namespace Cluster

variable {w₀ : World} {E : Halt → Prop}

theorem endures_update {change : Cluster → Cluster}
    (h : ∀ c, w₀.cluster.Serves c → w₀.cluster.Serves (change c))
    (hns : ∀ c : Cluster, c.ns.hashable = true → (change c).ns.hashable = true) :
    Endures w₀ E Whatever (update change) := by
  refine endures_modify fun w hw => ?_
  have hmachine := hw.machine
  exact ⟨hns _ hw.ns, hw.sound, h _ hw.cluster, hw.answers, hw.alarm,
    ⟨hmachine.markup, hmachine.takesHost, hmachine.logDirectory, hmachine.logFault⟩⟩

/-- A change that keeps what a cluster serves. -/
theorem endures_update_objects {change : Cluster → Cluster}
    (h : ∀ c : Cluster, c.Serves (change c)) (hns : ∀ c : Cluster, (change c).ns = c.ns) :
    Endures w₀ E Whatever (update change) :=
  endures_update (fun c hc => hc.trans (h c)) fun c hc => (hns c).symm ▸ hc

/-- A change of the namespace that the client falls back on. -/
theorem endures_update_ns {ns : Cluster → Yaml}
    (h : ∀ c : Cluster, c.ns.hashable = true → (ns c).hashable = true) :
    Endures w₀ E Whatever (update fun c => { c with ns := ns c }) :=
  endures_update (fun _ hc => hc.trans ⟨rfl, rfl, rfl, rfl, rfl, List.suffix_refl _⟩) h

/-- A request is answered, or refused with what its service answers instead. -/
theorem endures_request {service : Service}
    (hE : ∀ n fault, w₀.cluster.broken service n = some fault → E (.fault fault)) (call : Call) :
    Endures w₀ E Whatever (request service call) := by
  refine (endures_record _).bind fun _ _ => endures_get.bind fun w hw => ?_
  refine Endures.bind (endures_update_objects (fun c => ?_) fun c => ?_) fun _ _ => ?_
  · exact ⟨rfl, rfl, rfl, rfl, rfl, List.suffix_refl _⟩
  · rfl
  exact endures_unlessBroken fun fault hfault => hE _ fault (hw.cluster.broken ▸ hfault)

/-- A request to a service whose faults are raised as they are. -/
theorem endures_requestRaw {service : Service} (hraw : ∀ fault, service.absorbs fault = false)
    (hE : ∀ fault, w₀.Raises fault → E (.fault fault)) (call : Call) :
    Endures w₀ E Whatever (request service call) :=
  endures_request (fun _ fault h => hE fault (.refused h (hraw fault))) call

/-- What is not found is answered with an error. -/
theorem endures_found {α : Type} {P : α → Prop} {found? : Option α}
    (hE : ∀ fault, w₀.Raises fault → E (.fault fault)) (h : ∀ a, found? = some a → P a) :
    Endures w₀ E P (found found?) := by
  unfold found
  split
  · exact endures_pure (h _ rfl)
  · exact endures_throw (hE _ (.answered 404 (some "Not Found")))

theorem endures_lookupName {name : Yaml} (h : name.hashable = true) :
    Endures w₀ E Whatever (lookupName name) := by
  unfold lookupName
  rw [if_pos h]
  exact endures_pure trivial

section Calls

variable (hE : ∀ fault, w₀.Raises fault → E (.fault fault))
include hE

/-- A pod that is found is complete. -/
theorem endures_readPod (name : Option String) (ns : Yaml) :
    Endures w₀ E Pod.Reported (readPod name ns) := by
  refine (endures_requestRaw (fun _ => rfl) hE _).bind fun _ _ => endures_get.bind fun w hw => ?_
  exact endures_found hE fun pod hpod =>
    hw.sound_after.pods pod (List.mem_of_find?_eq_some hpod)

theorem endures_listPods (ns : Yaml) (labels : String) :
    Endures w₀ E (fun pods => ∀ pod ∈ pods, pod.Reported) (listPods ns labels) := by
  refine (endures_requestRaw (fun _ => rfl) hE _).bind fun _ _ => endures_get.bind fun w hw => ?_
  refine Endures.bind (endures_update_objects (fun c => ?_) fun c => ?_) fun _ _ => ?_
  · exact ⟨rfl, rfl, rfl, rfl, rfl, List.suffix_refl _⟩
  · rfl
  split
  · rename_i pods hpods
    refine endures_pure fun pod hpod => ?_
    exact hw.sound_after.listed _ pods hpods pod (List.mem_filter.mp hpod).1
  · rename_i fault hfault
    exact endures_throw (hE fault (hw.raises (.unlisted hfault)))

end Calls

end Cluster

end PodReach
