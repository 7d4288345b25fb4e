import PodReach.Proofs.World.Calls
import PodReach.World.Sockets

/-!
# What is done without the cluster

Most of what a program does neither asks the cluster nor reports an error. Such actions are quiet:
they leave the cluster as it is, and what they write down is neither a call to it nor an error. An
interrupt is quiet as well.
-/

namespace PodReach

open Run

/-! ## Reports -/

/-- How the report of an error begins. -/
def reportMark : String := "[red]❌ 主人，"

/-- Whether an entry is the report of an error. -/
def Entry.isReport : Entry → Bool
  | .display (.line text) => reportMark.toList.isPrefixOf text.toList
  | _ => false

/-- A text that begins with one mark does not begin with another. -/
theorem isPrefixOf_other {mark other text : String} (hmark : mark.toList <+: text.toList)
    (hother : ¬ other.toList <+: mark.toList ∧ ¬ mark.toList <+: other.toList) :
    other.toList.isPrefixOf text.toList = false := by
  rw [Bool.eq_false_iff]
  intro hbegins
  rw [List.isPrefixOf_iff_prefix] at hbegins
  rcases List.prefix_or_prefix_of_prefix hbegins hmark with hprefix | hprefix
  · exact hother.1 hprefix
  · exact hother.2 hprefix

/-- A line that begins in another way is no report. -/
theorem isReport_line_eq_false {mark text : String} (hmark : mark.toList <+: text.toList)
    (hother : ¬ reportMark.toList <+: mark.toList ∧ ¬ mark.toList <+: reportMark.toList) :
    (Entry.display (.line text)).isReport = false :=
  isPrefixOf_other hmark hother

/-! ## Quiet actions -/

/-- Whether an entry is neither a call to the cluster nor the report of an error. -/
def Entry.isQuiet (entry : Entry) : Bool :=
  entry.clusterCall?.isNone && !entry.isReport

namespace World

variable {w w' w'' : World}

/-- The interrupt that someone waits to make has not changed, or was made. -/
def SameAlarm (w w' : World) : Prop :=
  w'.interruptOn = w.interruptOn ∨ w'.interruptOn = none

theorem SameAlarm.trans (h : SameAlarm w w') (h' : SameAlarm w' w'') : SameAlarm w w'' := by
  rcases h' with h' | h'
  · exact h.imp h'.trans h'.trans
  · exact Or.inr h'

/-- Between two worlds the cluster was neither asked nor changed, and no error was reported. -/
structure Quiet (w w' : World) : Prop where
  written : ∃ entries, w'.journal.toList = w.journal.toList ++ entries ∧
    ∀ entry ∈ entries, entry.isQuiet = true
  cluster : w'.cluster = w.cluster
  alarm : SameAlarm w w'
  markup : w'.markup = w.markup

namespace Quiet

theorem refl (w : World) : Quiet w w :=
  ⟨⟨[], by simp, by simp⟩, rfl, Or.inl rfl, rfl⟩

theorem trans (h : Quiet w w') (h' : Quiet w' w'') : Quiet w w'' := by
  obtain ⟨first, hfirst, hquiet⟩ := h.written
  obtain ⟨second, hsecond, hquiet'⟩ := h'.written
  refine ⟨⟨first ++ second, ?_, ?_⟩, h'.cluster.trans h.cluster, h.alarm.trans h'.alarm,
    h'.markup.trans h.markup⟩
  · rw [hsecond, hfirst, List.append_assoc]
  · intro entry hentry
    rcases List.mem_append.mp hentry with hmem | hmem
    · exact hquiet entry hmem
    · exact hquiet' entry hmem

instance : Std.Refl Quiet :=
  ⟨refl⟩

instance : IsTrans World Quiet :=
  ⟨fun _ _ _ => trans⟩

theorem noted {entries : List Entry} (w : World) (h : ∀ entry ∈ entries, entry.isQuiet = true) :
    Quiet w (w.noted entries) :=
  ⟨⟨entries, journal_noted w entries, h⟩, rfl, Or.inl rfl, rfl⟩

/-- What is quiet takes nothing away. -/
theorem continues (h : Quiet w w') : w.Continues w' := by
  rw [Continues, h.cluster]
  exact .refl _

end Quiet

/-- What is neither written down nor asked is quiet. -/
theorem quiet_of_same (hjournal : w'.journal = w.journal) (hcluster : w'.cluster = w.cluster)
    (halarm : w'.interruptOn = w.interruptOn) (hmarkup : w'.markup = w.markup) : Quiet w w' :=
  ⟨⟨[], by simp [hjournal], by simp⟩, hcluster, Or.inl halarm, hmarkup⟩

end World

/-! ## Elementary actions -/

section Quiet

open World

variable {α : Type}

theorem quiet_record {entry : Entry} (h : entry.isQuiet = true) : Keeps Quiet (record entry) := by
  intro w
  rw [record_apply]
  exact .noted w (by simpa using h)

theorem quiet_log (level : Level) (text : String) : Keeps Quiet (Log.write level text) :=
  quiet_record rfl

theorem quiet_display {d : Display} (h : (Entry.display d).isReport = false) :
    Keeps Quiet (Console.display d) :=
  quiet_record (by rw [Entry.isQuiet, h]; rfl)

theorem quiet_heard : Keeps Quiet (modify fun w => { w with interruptOn := none } : Run Unit) :=
  fun _ => ⟨⟨[], (List.append_nil _).symm, by simp⟩, rfl, Or.inr rfl, rfl⟩

/-- A line that begins unlike a report is quiet. -/
theorem quiet_line (mark : String) {text : String} (hmark : mark.toList <+: text.toList)
    (hother : ¬ reportMark.toList <+: mark.toList ∧ ¬ mark.toList <+: reportMark.toList) :
    Keeps Quiet (Console.line text) := by
  refine Console.keeps_line (quiet_record ?_) quiet_heard
  rw [Entry.isQuiet, isReport_line_eq_false hmark hother]
  rfl

theorem quiet_emptyLine : Keeps Quiet (Console.line "") :=
  Console.keeps_line (quiet_record rfl) quiet_heard

theorem quiet_table (t : Table) : Keeps Quiet (Console.table t) :=
  Console.keeps_table (quiet_record rfl)

theorem quiet_spinner (text : String) : Keeps Quiet (Console.spinner text) :=
  Console.keeps_spinner (quiet_record rfl)

theorem quiet_styled (text : String) (style : Option String) :
    Keeps Quiet (Console.styled text style) :=
  (quiet_record rfl).bind fun _ => Console.keeps_interruptAfter quiet_heard text

theorem quiet_success (message : String) : Keeps Quiet (Console.success message) :=
  quiet_line "[green]" (by simp [toString]) (by decide)

theorem quiet_warning (message : String) : Keeps Quiet (Console.warning message) :=
  quiet_line "[yellow]" (by simp [toString]) (by decide)

theorem quiet_info (message : String) : Keeps Quiet (Console.info message) :=
  quiet_line "[cyan]" (by simp [toString]) (by decide)

private theorem quiet_taken (answers : List Answer) :
    Keeps Quiet (modify fun w => { w with answers := answers } : Run Unit) :=
  fun _ => quiet_of_same rfl rfl rfl rfl

theorem quiet_typedAnswer : Keeps Quiet Console.typedAnswer := by
  refine (Console.keeps_nextAnswer quiet_taken).bind fun answer => ?_
  split
  · exact keeps_pure _
  · exact keeps_throw _

theorem quiet_ask (message : String) : Keeps Quiet (Console.ask message) :=
  (quiet_display rfl).bind fun _ => quiet_typedAnswer

theorem quiet_choose (message : String) (choices : List (String × α)) (preset : Option String) :
    Keeps Quiet (Console.choose message choices preset) :=
  Console.keeps_choose (quiet_display rfl) quiet_taken

theorem quiet_advance (seconds : Double) : Keeps Quiet (Clock.advance seconds) :=
  fun _ => quiet_of_same rfl rfl rfl rfl

theorem quiet_pause (seconds : Double) : Keeps Quiet (Clock.pause seconds) :=
  (quiet_record rfl).bind fun _ => quiet_advance seconds

/-- Running another program asks the cluster nothing. -/
theorem quiet_runProcess (command : List String) (timeout : Yaml) :
    Keeps Quiet (runProcess command timeout) := by
  refine (quiet_record rfl).bind fun _ => keeps_get.bind fun v => ?_
  split
  · exact keeps_pure _
  · exact keeps_pure _
  · split
    · exact keeps_pure _
    · exact keeps_throw _

theorem quiet_openFile (name : String) : Keeps Quiet (Log.openFile name) :=
  Log.keeps_openFile (fun _ _ => quiet_of_same rfl rfl rfl rfl) name

/-! ## Interrupts and markup -/

/-- What can end an action that only writes: an interrupt that someone waited to make, or a text
that cannot be rendered. -/
inductive Run.Disturbed (w w' : World) : Halt → Prop
  | interrupted (awaited : w.interruptOn ≠ none) (made : w'.interruptOn = none) :
      Disturbed w w' .interrupted
  | unrendered {text : String} (unrendered : w.markup.renders text = false)
      (unmade : w'.interruptOn = w.interruptOn) : Disturbed w w' (.unrendered text)

/-- An action that only writes. -/
def Run.Shows (action : Run α) : Prop :=
  ∀ w, (action w).2.markup = w.markup ∧ match action w with
    | (.ok _, w') => w'.interruptOn = w.interruptOn
    | (.error halt, w') => Disturbed w w' halt

theorem Run.Shows.bind {β : Type} {action : Run α} {next : α → Run β} (h : Shows action)
    (hnext : ∀ a, Shows (next a)) : Shows (action >>= next) := by
  intro w
  obtain ⟨hmarkup, hfirst⟩ := h w
  rw [bind_apply]
  rcases hrun : action w with ⟨halt | a, w'⟩ <;> rw [hrun] at hmarkup hfirst
  · exact ⟨hmarkup, hfirst⟩
  · obtain ⟨hmarkup', hsecond⟩ := hnext a w'
    dsimp only at hmarkup hfirst ⊢
    refine ⟨hmarkup'.trans hmarkup, ?_⟩
    rcases hlast : next a w' with ⟨halt | b, w''⟩ <;> rw [hlast] at hsecond
    · cases hsecond with
      | interrupted awaited made => exact .interrupted (hfirst ▸ awaited) made
      | unrendered unrendered unmade =>
          exact .unrendered (hmarkup ▸ unrendered) (unmade.trans hfirst)
    · exact hsecond.trans hfirst

theorem shows_pure (a : α) : Shows (pure a : Run α) :=
  fun _ => ⟨rfl, rfl⟩

theorem shows_forM {l : List α} {body : α → Run PUnit} (h : ∀ a, Shows (body a)) :
    Shows (l.forM body) := by
  induction l with
  | nil => exact shows_pure _
  | cons a l ih => exact (h a).bind fun _ => ih

theorem shows_record (entry : Entry) : Shows (record entry) :=
  fun _ => ⟨rfl, rfl⟩

/-- A line that can be rendered is printed, and then someone who waited for it interrupts. -/
theorem line_apply (text : String) (w : World) : Console.line text w =
    if w.markup.renders text then
      if w.interruptOn.any (Text.contains text) then
        (.error .interrupted, { w.noted [.display (.line text)] with interruptOn := none })
      else (.ok (), w.noted [.display (.line text)])
    else (.error (.unrendered text), w) := by
  unfold Console.line Console.interruptAfter
  cases hrenders : w.markup.renders text with
  | false =>
      rw [bind_of_error (Console.render_of_unrendered hrenders), if_neg Bool.false_ne_true]
  | true =>
      have hrendered : Console.render [text] w = (.ok (), w) :=
        Console.render_of_renders (by simpa using hrenders)
      rw [bind_of_ok hrendered, bind_of_ok (record_apply _ w), bind_of_ok (get_apply _), if_pos rfl]
      have hsame : (w.noted [.display (.line text)]).interruptOn = w.interruptOn := rfl
      dsimp only
      rw [hsame]
      cases w.interruptOn with
      | none => rfl
      | some awaited =>
          simp only [Option.any_some]
          split <;> rfl

/-- A line is printed if it can be rendered and nobody waits to interrupt. -/
theorem line_of_calm {text : String} {w : World} (hrenders : w.markup.renders text = true)
    (hcalm : w.interruptOn = none) :
    Console.line text w = (.ok (), w.noted [.display (.line text)]) := by
  rw [line_apply, if_pos hrenders, hcalm]
  rfl

/-- A line that cannot be rendered does not appear. -/
theorem line_of_unrendered {text : String} {w : World}
    (h : w.markup.renders text = false) : Console.line text w = (.error (.unrendered text), w) := by
  rw [line_apply, h, if_neg Bool.false_ne_true]

/-- A line that was printed is what was written down. -/
theorem line_eq_ok {text : String} {w w' : World} (h : Console.line text w = (.ok (), w')) :
    w' = w.noted [.display (.line text)] := by
  rw [line_apply] at h
  split at h
  · split at h
    · cases h
    · exact (Prod.mk.inj h).2.symm
  · cases h

theorem shows_line (text : String) : Shows (Console.line text) := by
  intro w
  cases hrenders : w.markup.renders text with
  | false =>
      rw [line_of_unrendered hrenders]
      exact ⟨rfl, .unrendered hrenders rfl⟩
  | true =>
      rw [line_apply, if_pos hrenders]
      by_cases hstartled : w.interruptOn.any (Text.contains text) = true
      · rw [if_pos hstartled]
        refine ⟨rfl, .interrupted (fun halarm => ?_) rfl⟩
        rw [halarm] at hstartled
        cases hstartled
      · rw [if_neg hstartled]
        exact ⟨rfl, rfl⟩

/-! ## Sockets -/

theorem quiet_setSockets (sockets : Sockets) : Keeps Quiet (Network.setSockets sockets) :=
  fun _ => quiet_of_same rfl rfl rfl rfl

theorem quiet_makeSocket (address : String) : Keeps Quiet (Network.makeSocket address) := by
  refine keeps_get.bind fun v => ?_
  dsimp only
  split
  · exact (quiet_setSockets _).bind fun _ => keeps_pure _
  · exact (quiet_setSockets _).bind fun _ => keeps_pure _

theorem quiet_takeSocket : Keeps Quiet Network.takeSocket :=
  keeps_get.bind fun _ => (quiet_setSockets _).bind fun _ => keeps_pure _

theorem quiet_closeSocket (number : Nat) : Keeps Quiet (Network.closeSocket number) :=
  keeps_get.bind fun _ => quiet_setSockets _

theorem quiet_listen (socket : Nat) (address : String) (requested : Nat) :
    Keeps Quiet (Network.listen socket address requested) := by
  refine keeps_get.bind fun v => ?_
  dsimp only
  split
  · exact keeps_pure _
  · refine Keeps.bind (fun _ => quiet_of_same rfl rfl rfl rfl) fun _ => ?_
    split
    · exact keeps_pure _
    · exact (quiet_setSockets _).bind fun _ => keeps_pure _

theorem quiet_nextArrival (endpoint : String) : Keeps Quiet (Network.nextArrival endpoint) := by
  refine keeps_get.bind fun v => ?_
  split
  · exact Keeps.bind (fun _ => quiet_of_same rfl rfl rfl rfl) fun _ => keeps_pure _
  · exact keeps_pure _

end Quiet

end PodReach
