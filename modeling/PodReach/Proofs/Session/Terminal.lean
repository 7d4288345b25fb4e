import PodReach.Command.Container
import PodReach.Proofs.Command.Frames
import PodReach.Proofs.Session.Ending
import PodReach.Proofs.World.Calls
import PodReach.Proofs.World.Written

/-!
# The local terminal is given back

Only a session changes the attributes of the local terminal: it may make the terminal raw while it
waits for its relay, and it restores the terminal however the waiting ends. Everything else that a
command does leaves the terminal alone. So a command that holds sessions one after the other finds
the terminal before each of them, and leaves it at the end, as it was at the beginning.
-/

namespace PodReach

open Run World

/-- Whether an entry says that the terminal becomes raw or is restored. -/
def Entry.ofRawMode : Entry → Bool
  | .traffic t => Session.ofRawMode t
  | _ => false

namespace World

/-- What was written down between two worlds about making the terminal raw and restoring it. -/
def rawSince (w w' : World) : List Entry :=
  (entriesSince w w').filter Entry.ofRawMode

/-- Between two worlds the local terminal was left alone: it has the same attributes, the local
input is a terminal if it was one, and nothing was made raw. -/
structure LeftAlone (w w' : World) : Prop where
  attributes : w'.terminalAttributes = w.terminalAttributes
  onTerminal : Session.onTerminal w'.stdin = Session.onTerminal w.stdin
  written : Wrote (fun entry => entry.ofRawMode = false) w w'

namespace LeftAlone

variable {w w' w'' : World}

theorem refl (w : World) : LeftAlone w w :=
  ⟨rfl, rfl, .refl w⟩

theorem trans (h : LeftAlone w w') (h' : LeftAlone w' w'') : LeftAlone w w'' :=
  ⟨h'.attributes.trans h.attributes, h'.onTerminal.trans h.onTerminal, h.written.trans h'.written⟩

instance : Std.Refl LeftAlone :=
  ⟨refl⟩

instance : IsTrans World LeftAlone :=
  ⟨fun _ _ _ => trans⟩

theorem rawSince_eq_nil (h : LeftAlone w w') : rawSince w w' = [] := by
  rw [rawSince, List.filter_eq_nil_iff]
  intro entry hentry
  rw [h.written.of_mem entry hentry]
  exact Bool.false_ne_true

end LeftAlone

theorem rawSince_trans {w w' w'' : World} (h : w.Grew w') (h' : w'.Grew w'') :
    rawSince w w'' = rawSince w w' ++ rawSince w' w'' := by
  rw [rawSince, entriesSince_trans h h', List.filter_append]
  rfl

end World

/-! ## What leaves the terminal alone -/

section Elementary

variable {α : Type}

theorem leftAlone_of_same {w w' : World}
    (hattributes : w'.terminalAttributes = w.terminalAttributes)
    (hstdin : Session.onTerminal w'.stdin = Session.onTerminal w.stdin)
    (hjournal : w'.journal = w.journal) : LeftAlone w w' :=
  ⟨hattributes, hstdin, [], by rw [hjournal, List.append_nil], by simp⟩

theorem leftAlone_record {entry : Entry} (h : entry.ofRawMode = false) :
    Keeps LeftAlone (record entry) :=
  fun w => ⟨rfl, rfl, wrote_record (P := fun entry => entry.ofRawMode = false) h w⟩

theorem leftAlone_line (text : String) : Keeps LeftAlone (Console.line text) := by
  apply Console.keeps_line (leftAlone_record rfl)
  exact fun _ => leftAlone_of_same rfl rfl rfl

theorem leftAlone_openFile (name : String) : Keeps LeftAlone (Log.openFile name) :=
  Log.keeps_openFile (fun _ _ => leftAlone_of_same rfl rfl rfl) name

theorem leftAlone_choose (message : String) (choices : List (String × α)) (preset : Option String) :
    Keeps LeftAlone (Console.choose message choices preset) := by
  apply Console.keeps_choose (leftAlone_record rfl)
  exact fun _ _ => leftAlone_of_same rfl rfl rfl

/-- A call to the cluster is no matter of the terminal. -/
theorem leftAlone_call {call : Call} {action : Run α} (h : IsCall call action) :
    Keeps LeftAlone action := by
  intro w
  rw [h.world]
  exact ⟨rfl, rfl, [.call call], by simp [called, withCluster], by simp [Entry.ofRawMode]⟩

theorem leftAlone_targeted : Command.Targeted LeftAlone where
  pause _ := (leftAlone_record rfl).bind fun _ _ => leftAlone_of_same rfl rfl rfl
  list _ labels := leftAlone_call (isCall_listPods labels)
  read name _ := leftAlone_call (isCall_readPod name)
  spinner _ := Console.keeps_spinner (leftAlone_record rfl)
  spinnerStopped := leftAlone_record rfl
  choose := leftAlone_choose
  nothingToChoose := leftAlone_line _
  nothingRuns _ := leftAlone_line _

end Elementary

namespace Session

theorem leftAlone_carried : Carried LeftAlone where
  log _ _ := leftAlone_record rfl
  traffic _ ht := leftAlone_record ht
  advance _ _ := leftAlone_of_same rfl rfl rfl
  input _ hchange _ := leftAlone_of_same rfl (hchange _) rfl
  size _ _ := leftAlone_of_same rfl rfl rfl

theorem leftAlone_warnUnlessInteractive (container : Container) :
    Keeps LeftAlone (warnUnlessInteractive container) := by
  unfold warnUnlessInteractive
  dsimp only
  split
  · exact leftAlone_line _
  · exact keeps_pure _

theorem leftAlone_openSession (pod : Pod) (container : Container) (command : Option (List String)) :
    Keeps LeftAlone (openSession pod container command) := by
  refine (leftAlone_openFile _).bind fun _ => ?_
  refine keeps_get.bind fun v => keeps_when (leftAlone_warnUnlessInteractive _) ?_
  refine (keeps_need _).bind fun metadata => keeps_get.bind fun v' => ?_
  refine (leftAlone_line _).bind fun _ => (leftAlone_line _).bind fun _ => ?_
  refine (leftAlone_call (isCall_openStream _ _ _ _)).attempt.bind fun outcome => ?_
  split
  · split
    · exact (leftAlone_record rfl).bind fun _ => keeps_throw _
    · exact keeps_throw _
  · exact keeps_throw _
  · exact keeps_pure _

/-- Every result of an action is of one kind. -/
private def Yields {α : Type} (P : α → Prop) (action : Run α) : Prop :=
  ∀ w a w', action w = (.ok a, w') → P a

section Yields

variable {α β : Type} {P : β → Prop}

private theorem yields_last {action : Run α} {next : α → Run β} (h : ∀ a, Yields P (next a)) :
    Yields P (action >>= next) := by
  intro w b w' hrun
  obtain ⟨a, v, -, hlast⟩ := bind_eq_ok hrun
  exact h a v b w' hlast

private theorem yields_when {c : Prop} [Decidable c] {first : Run PUnit} {next : PUnit → Run β}
    (h : Yields P (next ⟨⟩)) : Yields P (if c then first >>= next else next ⟨⟩) := by
  split
  · exact yields_last fun _ => h
  · exact h

private theorem yields_throw (halt : Halt) : Yields P (throw halt) :=
  fun _ _ _ hrun => by cases hrun

end Yields

/-- The terminal of a session is the one that it wants when it begins. -/
theorem tty_of_openSession {pod : Pod} {container : Container} {command : Option (List String)}
    {w w' : World} {opened : Opened} (h : openSession pod container command w = (.ok opened, w')) :
    opened.tty = wantsTerminal w.stdin container (command.getD []) := by
  unfold openSession at h
  obtain ⟨_, v, hlog, h⟩ := bind_eq_ok h
  obtain ⟨logs, hlogs⟩ := Log.openFile_world logName w
  obtain rfl : v = { w with logs := logs } := by
    rw [← hlogs, hlog]
  rw [bind_of_ok (get_apply _)] at h
  refine (?_ : Yields (fun opened => opened.tty = wantsTerminal w.stdin container (command.getD []))
    _) _ opened w' h
  refine yields_when (yields_last fun metadata => yields_last fun v => ?_)
  refine yields_last fun _ => yields_last fun _ => yields_last fun outcome => ?_
  split
  · split
    · exact yields_last fun _ => yields_throw _
    · exact yields_throw _
  · exact yields_throw _
  · intro v opened v' hrun
    cases hrun
    rfl

end Session

/-! ## What a session does to the terminal -/

namespace World

/-- Between two worlds the local terminal was given back: it has the same attributes, it was made
raw once at most, only if that was allowed, and then it was restored. -/
structure GivenBack (allowed : Bool) (w w' : World) : Prop where
  attributes : w'.terminalAttributes = w.terminalAttributes
  onTerminal : Session.onTerminal w'.stdin = Session.onTerminal w.stdin
  grew : w.Grew w'
  raw : rawSince w w' = [] ∨
    allowed = true ∧ rawSince w w' = [.traffic .rawEntered, .traffic .rawLeft]

variable {allowed : Bool} {w w' w'' : World}

/-- What is left alone is given back. -/
theorem LeftAlone.givenBack (h : LeftAlone w w') : GivenBack allowed w w' :=
  ⟨h.attributes, h.onTerminal, h.written.grew, Or.inl h.rawSince_eq_nil⟩

theorem GivenBack.after (h : LeftAlone w w') (h' : GivenBack allowed w' w'') :
    GivenBack allowed w w'' where
  attributes := h'.attributes.trans h.attributes
  onTerminal := h'.onTerminal.trans h.onTerminal
  grew := h.written.grew.trans h'.grew
  raw := by
    rw [rawSince_trans h.written.grew h'.grew, h.rawSince_eq_nil, List.nil_append]
    exact h'.raw

theorem GivenBack.before (h : GivenBack allowed w w') (h' : LeftAlone w' w'') :
    GivenBack allowed w w'' where
  attributes := h'.attributes.trans h.attributes
  onTerminal := h'.onTerminal.trans h.onTerminal
  grew := h.grew.trans h'.written.grew
  raw := by
    rw [rawSince_trans h.grew h'.written.grew, h'.rawSince_eq_nil, List.append_nil]
    exact h.raw

end World

namespace Session

section Steps

variable {α β : Type} {allowed : Bool} {action : Run α} {next : α → Run β} {w : World}

/-- What leaves the terminal alone may come first. -/
theorem givenBack_after (h : Keeps LeftAlone action)
    (hnext : ∀ a w', action w = (.ok a, w') → LeftAlone w w' → GivenBack allowed w' (next a w').2) :
    GivenBack allowed w ((action >>= next) w).2 := by
  have hfirst := h w
  rw [bind_apply]
  rcases hrun : action w with ⟨halt | a, w'⟩ <;> rw [hrun] at hfirst
  · exact hfirst.givenBack
  · exact .after hfirst (hnext a w' hrun hfirst)

/-- What leaves the terminal alone may come last. -/
theorem givenBack_before (h : GivenBack allowed w (action w).2)
    (hnext : ∀ a, Keeps LeftAlone (next a)) :
    GivenBack allowed w ((action >>= next) w).2 := by
  rw [bind_apply]
  rcases hrun : action w with ⟨halt | a, w'⟩ <;> rw [hrun] at h
  · exact h
  · exact h.before (hnext a w')

end Steps

/-- Whatever is done while the terminal is raw, and however it ends, the terminal is restored. -/
theorem withRawTerminal_restores {α : Type} (action : Run α) (w : World) :
    (withRawTerminal true action w).2.terminalAttributes = w.terminalAttributes := by
  rw [withRawTerminal_apply]
  rfl

/-- There is something to restore: a raw terminal is not a usual one. -/
example : TerminalAttributes.usual.raw ≠ .usual := by decide

/-- What a single entry says about the terminal is all that was written down about it. -/
theorem rawSince_of_entry {w w' : World} {entry : Entry} (hraw : entry.ofRawMode = true)
    (h : w'.journal.toList = w.journal.toList ++ [entry]) : rawSince w w' = [entry] := by
  rw [rawSince, entriesSince_eq h]
  exact List.filter_cons_of_pos hraw

theorem givenBack_withRawTerminal {α : Type} (raw : Bool) {action : Run α}
    (h : Keeps LeftAlone action) (w : World) :
    GivenBack raw w (withRawTerminal raw action w).2 := by
  cases raw with
  | false => exact (h w).givenBack
  | true =>
      have hrestores := withRawTerminal_restores action w
      rw [withRawTerminal_apply, if_pos rfl] at hrestores ⊢
      have hinside := h (madeRaw w)
      have hmade : rawSince w (madeRaw w) = [.traffic .rawEntered] :=
        rawSince_of_entry rfl (World.journal_noted w _)
      have hleft : rawSince (action (madeRaw w)).2
          (restoredTo w.terminalAttributes (action (madeRaw w)).2) = [.traffic .rawLeft] :=
        rawSince_of_entry rfl (World.journal_noted _ _)
      have hgrown : w.Grew (madeRaw w) := w.grew_noted _
      have hrestored : (action (madeRaw w)).2.Grew
          (restoredTo w.terminalAttributes (action (madeRaw w)).2) := World.grew_noted _ _
      have hthrough := hgrown.trans hinside.written.grew
      refine ⟨hrestores, hinside.onTerminal, hthrough.trans hrestored, Or.inr ⟨rfl, ?_⟩⟩
      rw [rawSince_trans hthrough hrestored, rawSince_trans hgrown hinside.written.grew, hmade,
        hinside.rawSince_eq_nil, hleft]
      rfl

theorem givenBack_runSession (script : StreamScript) (tty : Bool) (label : String) (w : World) :
    GivenBack (tty && onTerminal w.stdin) w (runSession script tty label w).2 := by
  have hrelay : Keeps LeftAlone (attempt (relay tty (!tty) script)) :=
    keeps_relay leftAlone_carried _ _ _
  apply givenBack_after hrelay
  intro relayed w' _ hleft
  rw [bind_of_ok (get_apply w'), ← hleft.onTerminal]
  apply givenBack_before
  · exact givenBack_withRawTerminal _ (keeps_awaitRelay _ _) w'
  · intro outcome
    exact keeps_reportEnding leftAlone_carried _ _

/-- A session gives the terminal back. It makes it raw only if the session has a terminal and the
local input is one. -/
theorem givenBack_attach (pod : Pod) (container : Container) (command : Option (List String))
    (w : World) :
    GivenBack (wantsTerminal w.stdin container (command.getD []) && onTerminal w.stdin) w
      (attach pod container command w).2 := by
  apply givenBack_after (leftAlone_openSession _ _ _)
  intro opened w₁ hopened h₁
  apply givenBack_after (keeps_logOpened leftAlone_carried _ _)
  intro _ w₂ _ h₂
  apply givenBack_after (keeps_beginSession leftAlone_carried _ _)
  intro _ w₃ _ h₃
  rw [always_world, ← tty_of_openSession hopened, ← ((h₁.trans h₂).trans h₃).onTerminal]
  exact (givenBack_runSession _ _ _ w₃).before (keeps_endSession leftAlone_carried _ _)

/-! ## Sessions one after the other -/

/-- A session that was held: in which container, with which command, and from which world. -/
structure Stay where
  pod : Pod
  container : Container
  command : Option (List String)
  before : World

namespace Stay

/-- The world that a session left. -/
def after (s : Stay) : World :=
  (attach s.pod s.container s.command s.before).2

/-- Whether a session may make the terminal raw: it has a terminal, and the local input is one. -/
def mayBeRaw (s : Stay) : Bool :=
  wantsTerminal s.before.stdin s.container (s.command.getD []) && onTerminal s.before.stdin

theorem givenBack (s : Stay) : GivenBack s.mayBeRaw s.before s.after :=
  givenBack_attach s.pod s.container s.command s.before

end Stay

/-- From one world to another these sessions were held in turn, and apart from them the terminal was
left alone. -/
inductive StaysBetween : World → List Stay → World → Prop
  | none {w w' : World} (alone : LeftAlone w w') : StaysBetween w [] w'
  | next {w w' : World} {stays : List Stay} (s : Stay) (alone : LeftAlone w s.before)
      (rest : StaysBetween s.after stays w') : StaysBetween w (s :: stays) w'

namespace StaysBetween

variable {w w' w'' : World} {stays later : List Stay}

theorem append (h : StaysBetween w stays w') (h' : StaysBetween w' later w'') :
    StaysBetween w (stays ++ later) w'' := by
  induction h with
  | none alone =>
      cases h' with
      | none alone' => exact .none (alone.trans alone')
      | next s alone' rest => exact .next s (alone.trans alone') rest
  | next s alone rest ih => exact .next s alone (ih h')

theorem grew (h : StaysBetween w stays w') : w.Grew w' := by
  induction h with
  | none alone => exact alone.written.grew
  | next s alone rest ih => exact (alone.written.grew.trans s.givenBack.grew).trans ih

/-- The terminal is at the end and around each session as it was at the beginning. -/
theorem attributes (h : StaysBetween w stays w') :
    w'.terminalAttributes = w.terminalAttributes ∧
      ∀ s ∈ stays, s.before.terminalAttributes = w.terminalAttributes ∧
        s.after.terminalAttributes = w.terminalAttributes := by
  induction h with
  | none alone => exact ⟨alone.attributes, by simp⟩
  | next s alone rest ih =>
      have hafter := s.givenBack.attributes.trans alone.attributes
      refine ⟨ih.1.trans hafter, List.forall_mem_cons.mpr ⟨⟨alone.attributes, hafter⟩, ?_⟩⟩
      intro t ht
      exact (ih.2 t ht).imp (·.trans hafter) (·.trans hafter)

/-- The local input stays on a terminal if it was on one. -/
theorem onTerminal (h : StaysBetween w stays w') :
    ∀ s ∈ stays, Session.onTerminal s.before.stdin = Session.onTerminal w.stdin := by
  induction h with
  | none alone => simp
  | next s alone rest ih =>
      refine List.forall_mem_cons.mpr ⟨alone.onTerminal, fun t ht => ?_⟩
      exact (ih t ht).trans (s.givenBack.onTerminal.trans alone.onTerminal)

/-- What happened to the terminal is what happened to it in the sessions. -/
theorem rawSince_eq (h : StaysBetween w stays w') :
    rawSince w w' = stays.flatMap fun s => rawSince s.before s.after := by
  induction h with
  | none alone => exact alone.rawSince_eq_nil
  | next s alone rest ih =>
      have hgrown := alone.written.grew.trans s.givenBack.grew
      rw [rawSince_trans hgrown rest.grew, rawSince_trans alone.written.grew s.givenBack.grew,
        alone.rawSince_eq_nil, ih]
      rfl

end StaysBetween

/-- An action holds so many sessions at most and leaves the terminal alone apart from them. -/
def Holds {α : Type} (most : Nat) (action : Run α) : Prop :=
  ∀ w, ∃ stays, stays.length ≤ most ∧ StaysBetween w stays (action w).2

section Holds

variable {α β : Type} {m n : Nat} {action : Run α} {next : α → Run β}

theorem holds_of_leftAlone (h : Keeps LeftAlone action) : Holds n action :=
  fun w => ⟨[], Nat.zero_le n, .none (h w)⟩

theorem holds_attach (pod : Pod) (container : Container) (command : Option (List String)) :
    Holds 1 (attach pod container command) :=
  fun w => ⟨[⟨pod, container, command, w⟩], Nat.le_refl 1, .next _ (.refl w) (.none (.refl _))⟩

theorem Holds.bind (h : Holds m action) (hnext : ∀ a, Holds n (next a)) :
    Holds (m + n) (action >>= next) := by
  intro w
  obtain ⟨stays, hmost, hstays⟩ := h w
  rw [bind_apply]
  rcases hrun : action w with ⟨halt | a, w'⟩ <;> rw [hrun] at hstays
  · exact ⟨stays, Nat.le_add_right_of_le hmost, hstays⟩
  · obtain ⟨later, hmost', hlater⟩ := hnext a w'
    exact ⟨stays ++ later, by rw [List.length_append]; omega, hstays.append hlater⟩

/-- What leaves the terminal alone may come before the sessions. -/
theorem Holds.after (h : Keeps LeftAlone action) (hnext : ∀ a, Holds n (next a)) :
    Holds n (action >>= next) := by
  have hboth := (holds_of_leftAlone (n := 0) h).bind hnext
  rwa [Nat.zero_add] at hboth

/-- What leaves the terminal alone may come after the sessions. -/
theorem Holds.before (h : Holds n action) (hnext : ∀ a, Keeps LeftAlone (next a)) :
    Holds n (action >>= next) :=
  h.bind fun a => holds_of_leftAlone (n := 0) (hnext a)

end Holds

end Session

namespace Command

open Session

theorem leftAlone_resolveTarget (selector : Selector) (interactive : Bool) :
    Keeps LeftAlone (resolveTarget selector interactive) :=
  keeps_resolveTarget leftAlone_targeted selector interactive

theorem holds_attachToPod (selector : Selector) : Holds 1 (attachToPod selector) := by
  apply Holds.after (leftAlone_resolveTarget selector true)
  intro found
  split
  · exact holds_of_leftAlone (keeps_pure _)
  · exact (holds_attach _ _ _).before fun _ => leftAlone_line _

/-- A shell is a session, and so is the plain shell that may take its place. -/
theorem holds_shellIntoPod (selector : Selector) (command : List String) (shell : Yaml) :
    Holds 2 (shellIntoPod selector command shell) := by
  have hfarewell (pod : Pod) (code : Option Int) : Keeps LeftAlone (do
      let name := Text.orNone pod.name?
      Console.line s!"\n[dim]主人，已退出容器 {name}[/dim]"
      return code) :=
    (leftAlone_line _).bind fun _ => keeps_pure _
  apply Holds.after (leftAlone_resolveTarget selector true)
  intro found
  split
  · exact holds_of_leftAlone (keeps_pure _)
  · apply Holds.after (keeps_ofExcept _)
    intro words
    apply Holds.after (leftAlone_line _)
    intro _
    apply Holds.bind (m := 1) (n := 1) (holds_attach _ _ _)
    intro first
    split
    · exact (holds_attach _ _ _).before fun last => hfarewell _ last
    · exact holds_of_leftAlone (hfarewell _ first)

/-- What is known of the terminal when a command, or whatever else holds these sessions, is over. -/
structure TerminalKept (most : Nat) (w w' : World) (stays : List Stay) : Prop where
  length_le : stays.length ≤ most
  /-- At the end the attributes are those of the beginning. -/
  attributes : w'.terminalAttributes = w.terminalAttributes
  /-- So they are when a session begins and when it ends. -/
  around : ∀ s ∈ stays, s.before.terminalAttributes = w.terminalAttributes ∧
    s.after.terminalAttributes = w.terminalAttributes
  /-- The local input is a terminal for all sessions or for none. -/
  input : ∀ s ∈ stays, onTerminal s.before.stdin = onTerminal w.stdin
  /-- A session makes the terminal raw once at most, and only if it has a terminal on a local input
  that is one. -/
  session : ∀ s ∈ stays, GivenBack s.mayBeRaw s.before s.after
  /-- Nothing but the sessions makes the terminal raw. -/
  raw : rawSince w w' = stays.flatMap fun s => rawSince s.before s.after

theorem exists_terminalKept {α : Type} {most : Nat} {action : Run α} (h : Holds most action)
    (w : World) : ∃ stays, TerminalKept most w (action w).2 stays := by
  obtain ⟨stays, hmost, hstays⟩ := h w
  exact ⟨stays, hmost, hstays.attributes.1, hstays.attributes.2, hstays.onTerminal,
    fun s _ => s.givenBack, hstays.rawSince_eq⟩

/-- **The terminal is given back.** However a session ends, whatever its stream does and whatever
the local input is, the terminal then has the attributes that it had before; it was made raw at most
once, and only for a session with a terminal on a local input that is one. The same holds of a
command that attaches to a pod, and of one that runs a shell, across the session of the plain shell
that may follow the first one. -/
theorem terminal_law (w : World) :
    (∀ pod container command,
      GivenBack (wantsTerminal w.stdin container (command.getD []) && onTerminal w.stdin) w
        (attach pod container command w).2) ∧
    (∀ selector, ∃ stays, TerminalKept 1 w (attachToPod selector w).2 stays) ∧
    ∀ selector command shell, ∃ stays,
      TerminalKept 2 w (shellIntoPod selector command shell w).2 stays :=
  ⟨fun pod container command => givenBack_attach pod container command w,
    fun selector => exists_terminalKept (holds_attachToPod selector) w,
    fun selector command shell => exists_terminalKept (holds_shellIntoPod selector command shell) w⟩

end Command

end PodReach
