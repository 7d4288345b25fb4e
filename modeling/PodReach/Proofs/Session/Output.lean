import PodReach.Proofs.Session.LocalInput

/-!
# What a relay writes, and when it closes

The output of every update that completes is written before anything else can happen, so a relay
writes exactly what its updates have made available, up to and with the last of them. After the end
of the local input it measures silence from the last moment at which anything was heard, and closes
the stream in the first iteration in which the silence has lasted too long.
-/

namespace PodReach.Session

open Run World

/-- The two channels of output. -/
inductive Channel
  | stdout
  | stderr

namespace Channel

/-- The text that an entry writes to a channel. -/
def written : Channel → Entry → List Char
  | stdout, .traffic (.stdout text) => text.toList
  | stderr, .traffic (.stderr text) => text.toList
  | _, _ => []

/-- The text that an update makes available on a channel. -/
def available : Channel → Tick → List Char
  | stdout, tick => tick.out.toList
  | stderr, tick => tick.err.toList

end Channel

/-- The updates of a relay that complete, in order. -/
def completedUpdates (watching closeOnEnd : Bool) : Relaying → List Tick → World → List Tick
  | _, [], _ => []
  | state, tick :: rest, w =>
    match update watching tick w with
    | (.error _, _) => []
    | (.ok _, _) =>
      tick :: match relayOnce watching closeOnEnd state tick w with
        | (.ok (some next), w') => completedUpdates watching closeOnEnd next rest w'
        | _ => []

/-! ## Output -/

namespace Channel

variable (channel : Channel)

theorem written_resizeEntries (watching : Bool) (tick : Tick) :
    (resizeEntries watching tick).flatMap channel.written = [] := by
  rw [List.flatMap_eq_nil_iff]
  intro entry hentry
  obtain ⟨columns, rows, rfl⟩ := eq_of_mem_resizeEntries hentry
  cases channel <;> rfl

theorem written_outputEntries (tick : Tick) :
    (outputEntries tick).flatMap channel.written = channel.available tick := by
  unfold outputEntries
  cases channel with
  | stdout => split_ifs with hout herr <;> simp_all [written, available]
  | stderr => split_ifs with hout herr <;> simp_all [written, available]

/-- What is written after an update is what it has made available, if that can be read. -/
theorem written_shownEntries {watching : Bool} {tick : Tick}
    (h : updateHalt watching tick = none) :
    (shownEntries watching tick).flatMap channel.written =
      if tick.readFault.isNone then channel.available tick else [] := by
  unfold shownEntries
  rw [if_neg (not_not.mpr h)]
  cases tick.readFault with
  | some fault => exact channel.written_resizeEntries watching tick
  | none =>
      rw [if_neg (not_not.mpr rfl), List.flatMap_append, written_resizeEntries,
        written_outputEntries]
      rfl

theorem written_followEntries (state : Relaying) (read : Option (List UInt8))
    (outcome : Except Halt (Option Relaying)) :
    (followEntries state read outcome).flatMap channel.written = [] := by
  rw [List.flatMap_eq_nil_iff]
  intro entry hentry
  obtain ⟨rfl, -⟩ | ⟨text, rfl⟩ := eq_of_mem_followEntries hentry <;> cases channel <;> rfl

end Channel

section Output

variable {watching closeOnEnd : Bool}

/-- An iteration whose update completes writes what that has made available. -/
theorem written_relayOnce (channel : Channel) {state : Relaying} {tick : Tick} {w w' : World}
    {outcome : Except Halt (Option Relaying)} (hcompletes : updateHalt watching tick = none)
    (h : relayOnce watching closeOnEnd state tick w = (outcome, w')) :
    ∃ entries, w'.journal.toList = w.journal.toList ++ entries ∧
      entries.flatMap channel.written =
        if tick.readFault.isNone then channel.available tick else [] := by
  refine ⟨_, journal_relayOnce h, ?_⟩
  rw [List.flatMap_append, channel.written_shownEntries hcompletes, channel.written_followEntries,
    List.append_nil]

/-- A relay writes what its updates make available, from wherever it stands. -/
theorem written_relayTicks (channel : Channel) (state : Relaying) (ticks : List Tick) (w : World) :
    ∃ entries, (relayTicks watching closeOnEnd state ticks w).2.journal.toList =
        w.journal.toList ++ entries ∧
      entries.flatMap channel.written =
        ((completedUpdates watching closeOnEnd state ticks w).filter (·.readFault.isNone)).flatMap
          channel.available := by
  induction ticks generalizing state w with
  | nil => exact ⟨[], (List.append_nil _).symm, rfl⟩
  | cons tick rest ih =>
      rw [relayTicks_cons, completedUpdates]
      rcases hiteration : relayOnce watching closeOnEnd state tick w with ⟨outcome, w'⟩
      cases hupdate : updateHalt watching tick with
      | some halt =>
          obtain ⟨_, happly, -, -⟩ := update_of_fails hupdate w
          obtain rfl := outcome_of_fails hupdate hiteration
          refine ⟨_, journal_relayOnce hiteration, ?_⟩
          rw [happly, shownEntries, if_pos (by simp [hupdate])]
          rfl
      | none =>
          obtain ⟨wrote, hjournal, hwrote⟩ := written_relayOnce channel hupdate hiteration
          have hcons : ∀ later : List Tick,
              ((tick :: later).filter (·.readFault.isNone)).flatMap channel.available =
                wrote.flatMap channel.written ++
                  (later.filter (·.readFault.isNone)).flatMap channel.available := by
            intro later
            rw [hwrote, List.filter_cons]
            split_ifs <;> rfl
          rw [update_of_completes hupdate]
          dsimp only
          rw [hcons]
          rcases outcome with halt | _ | next
          · exact ⟨wrote, hjournal, (List.append_nil _).symm⟩
          · exact ⟨wrote, hjournal, (List.append_nil _).symm⟩
          · obtain ⟨entries, hentries, htext⟩ := ih next w'
            refine ⟨wrote ++ entries, ?_, ?_⟩
            · rw [← List.append_assoc, ← hjournal]
              exact hentries
            · rw [List.flatMap_append, htext]

/-- The updates of the iterations before a head have completed. -/
theorem AtHead.completedUpdates_eq {w v : World} {passes : List Pass} {state : Relaying}
    (h : AtHead watching closeOnEnd w passes state v) (rest : List Tick) :
    completedUpdates watching closeOnEnd (.start w) (passes.map Pass.tick ++ rest) w =
      passes.map Pass.tick ++ completedUpdates watching closeOnEnd state rest v := by
  induction h generalizing rest with
  | first => rfl
  | @next passes state state' v v' tick before goesOn ih =>
      rw [List.map_append, List.append_assoc, ih, List.append_assoc]
      congr 1
      change completedUpdates watching closeOnEnd state (tick :: rest) v = _
      cases relayOnce_iterates goesOn with
      | followed completes _ _ _ =>
          rw [completedUpdates, update_of_completes completes, goesOn]
          rfl

end Output

/-! ## Silence -/

instance (passes : List Pass) : Decidable (InputOver passes) :=
  inferInstanceAs (Decidable (∃ pass ∈ passes, pass.read = some []))

/-- Something was heard in an iteration: output, or the end of the local input. -/
def Pass.heard (pass : Pass) : Bool :=
  hasOutput pass.tick || decide (pass.read = some [])

/-- The last iteration in which something was heard. -/
def lastHeard (passes : List Pass) : Option Pass :=
  passes.reverse.find? Pass.heard

/-- The moment from which silence is counted, once the local input has ended. -/
def quietSince (closeOnEnd : Bool) (passes : List Pass) : Option Double :=
  if closeOnEnd = true ∧ InputOver passes then (lastHeard passes).map Pass.time else none

section Silence

variable {watching closeOnEnd : Bool} {passes : List Pass} {pass : Pass} {state state' : Relaying}
  {tick : Tick} {w v v' : World}

theorem lastHeard_append :
    lastHeard (passes ++ [pass]) = if pass.heard then some pass else lastHeard passes := by
  unfold lastHeard
  rw [List.reverse_append, List.reverse_singleton, List.singleton_append, List.find?_cons]
  cases pass.heard <;> rfl

theorem lastHeard_ne_none (h : InputOver passes) : lastHeard passes ≠ none := by
  obtain ⟨pass, hmem, hread⟩ := h
  intro hnone
  apply List.find?_eq_none.mp hnone pass (List.mem_reverse.mpr hmem)
  simp [Pass.heard, hread]

/-- Silence is measured as soon as the input is over. -/
theorem quietSince_eq_none_iff :
    quietSince closeOnEnd passes = none ↔ ¬ (closeOnEnd = true ∧ InputOver passes) := by
  unfold quietSince
  split_ifs with hover
  · simp [hover, lastHeard_ne_none]
  · simp [hover]

theorem quietSince_eq_some_iff {since : Double} :
    quietSince closeOnEnd passes = some since ↔
      closeOnEnd = true ∧ InputOver passes ∧
        ∃ quiet, lastHeard passes = some quiet ∧ quiet.time = since := by
  unfold quietSince
  split_ifs with hover
  · simp [hover]
  · constructor
    · intro h
      cases h
    · rintro ⟨hclose, hinput, -⟩
      exact absurd ⟨hclose, hinput⟩ hover

/-- An iteration in which nothing is heard changes nothing about silence. -/
theorem quietSince_append_of_not_heard (h : pass.heard = false) :
    quietSince closeOnEnd (passes ++ [pass]) = quietSince closeOnEnd passes := by
  have hread : pass.read ≠ some [] := by
    intro hread
    simp [Pass.heard, hread] at h
  unfold quietSince
  rw [lastHeard_append, h]
  simp [hread]

/-- While the input is not over, there is no silence to be measured. -/
theorem quietSince_append_of_unread (h : quietSince closeOnEnd passes = none)
    (hread : pass.read ≠ some []) : quietSince closeOnEnd (passes ++ [pass]) = none := by
  rw [quietSince_eq_none_iff] at h ⊢
  rwa [inputOver_append, or_iff_left hread]

/-- An iteration in which something is heard after the end of the input, or that end, is where
silence begins. -/
theorem quietSince_append_of_heard (hclose : closeOnEnd = true)
    (hover : InputOver (passes ++ [pass])) (h : pass.heard = true) :
    quietSince closeOnEnd (passes ++ [pass]) = some pass.time := by
  rw [quietSince, if_pos ⟨hclose, hover⟩, lastHeard_append, h]
  rfl

/-- Every iteration after which a relay goes on moves the beginning of silence as it should. -/
theorem silentSince_next (h : state.silentSince = quietSince closeOnEnd passes)
    (hgoes : relayOnce watching closeOnEnd state tick v = (.ok (some state'), v')) :
    state'.silentSince = quietSince closeOnEnd (passes ++ [passOf state tick v]) := by
  obtain ⟨read, hpass, hfollows⟩ := follows_of_goesOn hgoes
  cases hfollows with
  | @heard since waiting output =>
      rw [waiting, eq_comm, quietSince_eq_some_iff] at h
      obtain ⟨hclose, hover, -⟩ := h
      rw [quietSince_append_of_heard hclose (inputOver_append.mpr (Or.inl hover))]
      · rfl
      · simp [Pass.heard, output]
  | waited waiting silent _ =>
      rw [quietSince_append_of_not_heard]
      · exact h
      · simp [Pass.heard, hpass, silent]
  | deaf unmeasured _ | unreadable unmeasured _ _ =>
      rw [unmeasured, quietSince_append_of_unread (h.symm.trans unmeasured)]
      simp [hpass]
  | ended unmeasured _ _ _ =>
      cases closeOnEnd with
      | false => exact (quietSince_eq_none_iff.mpr (by simp)).symm
      | true =>
          rw [quietSince_append_of_heard rfl (inputOver_append.mpr (Or.inr hpass))]
          · rfl
          · simp [Pass.heard, hpass]
  | passed unmeasured _ _ nonempty _ =>
      rw [quietSince_append_of_unread (h.symm.trans unmeasured)]
      · exact unmeasured
      · simpa [hpass] using nonempty

/-- A relay measures silence from the last moment at which something was heard. -/
theorem AtHead.silentSince_eq (h : AtHead watching closeOnEnd w passes state v) :
    state.silentSince = quietSince closeOnEnd passes := by
  induction h with
  | first => exact (quietSince_eq_none_iff.mpr (fun hover => not_inputOver_nil hover.2)).symm
  | next before goesOn ih => exact silentSince_next ih goesOn

/-- The next iteration is silent, and the silence has lasted too long. -/
def TooQuiet (watching : Bool) (passes : List Pass) (tick : Tick) (v : World) : Prop :=
  (update watching tick v).1 = .ok () ∧ tick.readFault = none ∧ hasOutput tick = false ∧
    ∃ quiet, lastHeard passes = some quiet ∧
      idleTimeout.lt ((v.clock.add tick.elapsed).sub quiet.time) = true

/-- An iteration closes the stream when the relay closes at the end of the input, that has come, and
nothing has been heard for too long. -/
theorem AtHead.closes_iff (h : AtHead watching closeOnEnd w passes state v) :
    (relayOnce watching closeOnEnd state tick v).1 = .ok none ↔
      closeOnEnd = true ∧ InputOver passes ∧ TooQuiet watching passes tick v := by
  have hsince := h.silentSince_eq
  rcases hiteration : relayOnce watching closeOnEnd state tick v with ⟨outcome, v'⟩
  have hiterates := relayOnce_iterates hiteration
  constructor
  · rintro rfl
    cases hiterates with
    | followed completes readable _ follows =>
        cases follows with
        | closed waiting silent long =>
            rw [waiting, eq_comm, quietSince_eq_some_iff] at hsince
            obtain ⟨hclose, hover, quiet, hquiet, rfl⟩ := hsince
            rw [TooQuiet, update_of_completes completes]
            exact ⟨hclose, hover, rfl, readable, silent, quiet, hquiet, long⟩
  · rintro ⟨hclose, hover, hcompletes, hreadable, hsilent, quiet, hquiet, hlong⟩
    have hwaiting : state.silentSince = some quiet.time :=
      hsince.trans (quietSince_eq_some_iff.mpr ⟨hclose, hover, quiet, hquiet, rfl⟩)
    cases hiterates with
    | failed fails _ _ =>
        obtain ⟨_, happly, -⟩ := update_of_fails fails v
        rw [happly] at hcompletes
        cases hcompletes
    | unread _ unreadable =>
        rw [hreadable] at unreadable
        cases unreadable
    | followed _ _ _ follows =>
        cases follows with
        | closed => rfl
        | heard _ output =>
            rw [hsilent] at output
            cases output
        | waited waiting _ short =>
            obtain rfl := Option.some.inj (hwaiting.symm.trans waiting)
            exact absurd (hlong.symm.trans short) (by simp)
        | deaf unmeasured | unreadable unmeasured | ended unmeasured | passed unmeasured
        | unsent unmeasured =>
            rw [hwaiting] at unmeasured
            cases unmeasured

/-- Only closing the stream is written down as that. -/
theorem closed_mem_iteration {read : Option (List UInt8)}
    {outcome : Except Halt (Option Relaying)} :
    .traffic .streamClosed ∈ shownEntries watching tick ++ followEntries state read outcome ↔
      outcome = .ok none := by
  constructor
  · intro hmem
    obtain hshown | hfollow := List.mem_append.mp hmem
    · obtain ⟨columns, rows, hentry⟩ | hentry | hentry := eq_of_mem_shownEntries hshown <;>
        cases hentry
    · obtain ⟨-, rfl⟩ | ⟨text, hentry⟩ := eq_of_mem_followEntries hfollow
      · rfl
      · cases hentry
  · rintro rfl
    exact List.mem_append_right _ (List.mem_singleton_self _)

/-- A relay that is at the head of its loop has not closed the stream. -/
theorem AtHead.not_closed (h : AtHead watching closeOnEnd w passes state v) :
    .traffic .streamClosed ∉ entriesSince w v := by
  induction h with
  | first =>
      rw [entriesSince_eq (List.append_nil _).symm]
      exact List.not_mem_nil
  | next before goesOn ih =>
      rw [entriesSince_append before.journal_grown (journal_relayOnce goesOn), List.mem_append]
      rw [closed_mem_iteration]
      simp [ih]

/-- A relay closes the stream exactly in the iterations that do. -/
theorem closed_iff (ticks : List Tick) :
    .traffic .streamClosed ∈
        entriesSince w (relayTicks watching closeOnEnd (.start w) ticks w).2 ↔
      ∃ passes state v tick rest, ticks = passes.map Pass.tick ++ tick :: rest ∧
        AtHead watching closeOnEnd w passes state v ∧
        (relayOnce watching closeOnEnd state tick v).1 = .ok none := by
  constructor
  · intro hclosed
    obtain ⟨passes, state, v, rest, hticks, hhead, hends⟩ :=
      exists_last_head watching closeOnEnd w ticks
    generalize relayTicks watching closeOnEnd (.start w) ticks w = run at hclosed hends
    obtain ⟨outcome, u⟩ := run
    cases hends with
    | drained => exact absurd hclosed hhead.not_closed
    | closed closes => exact ⟨passes, state, v, _, _, hticks, hhead, congrArg Prod.fst closes⟩
    | failed fails =>
        rw [entriesSince_append hhead.journal_grown (journal_relayOnce fails), List.mem_append,
          closed_mem_iteration] at hclosed
        obtain hearlier | herror := hclosed
        · exact absurd hearlier hhead.not_closed
        · cases herror
  · rintro ⟨passes, state, v, tick, rest, rfl, hhead, hcloses⟩
    rw [hhead.relayTicks_eq, relayTicks_cons]
    rcases hiteration : relayOnce watching closeOnEnd state tick v with ⟨outcome, v'⟩
    rw [hiteration] at hcloses
    obtain rfl : outcome = .ok none := hcloses
    rw [entriesSince_append hhead.journal_grown (journal_relayOnce hiteration), List.mem_append,
      closed_mem_iteration]
    exact Or.inr rfl

/-- A relay closes the stream exactly when the input is over and nothing was heard for too long. -/
theorem closed_iff_tooQuiet (watching closeOnEnd : Bool) (w : World) (ticks : List Tick) :
    .traffic .streamClosed ∈
        entriesSince w (relayTicks watching closeOnEnd (.start w) ticks w).2 ↔
      closeOnEnd = true ∧ ∃ passes state v tick rest,
        ticks = passes.map Pass.tick ++ tick :: rest ∧
        AtHead watching closeOnEnd w passes state v ∧ InputOver passes ∧
        TooQuiet watching passes tick v := by
  rw [closed_iff]
  constructor
  · rintro ⟨passes, state, v, tick, rest, hticks, hhead, hcloses⟩
    obtain ⟨hclose, hover, hquiet⟩ := hhead.closes_iff.mp hcloses
    exact ⟨hclose, passes, state, v, tick, rest, hticks, hhead, hover, hquiet⟩
  · rintro ⟨hclose, passes, state, v, tick, rest, hticks, hhead, hover, hquiet⟩
    exact ⟨passes, state, v, tick, rest, hticks, hhead,
      hhead.closes_iff.mpr ⟨hclose, hover, hquiet⟩⟩

/-- A relay that fails, fails because of one of its updates. -/
theorem failsBy_of_relayTicks {ticks : List Tick} {halt : Halt}
    (h : (relayTicks watching closeOnEnd (.start w) ticks w).1 = .error halt) :
    ∃ tick ∈ ticks, FailsBy watching tick halt := by
  obtain ⟨passes, state, v, rest, hticks, hhead, hends⟩ :=
    exists_last_head watching closeOnEnd w ticks
  generalize relayTicks watching closeOnEnd (.start w) ticks w = run at h hends
  obtain ⟨outcome, u⟩ := run
  cases hends with
  | drained | closed => cases h
  | @failed tick later _ _ fails =>
      cases h
      exact ⟨tick, by simp [hticks], failsBy_of_relayOnce fails⟩

/-- A relay that neither fails nor closes the stream performs all its updates. -/
theorem completedUpdates_of_drained {ticks : List Tick}
    (hok : (relayTicks watching closeOnEnd (.start w) ticks w).1 = .ok ())
    (hopen : .traffic .streamClosed ∉
      entriesSince w (relayTicks watching closeOnEnd (.start w) ticks w).2) :
    completedUpdates watching closeOnEnd (.start w) ticks w = ticks := by
  obtain ⟨passes, state, v, rest, hticks, hhead, hends⟩ :=
    exists_last_head watching closeOnEnd w ticks
  rw [closed_iff] at hopen
  generalize relayTicks watching closeOnEnd (.start w) ticks w = run at hok hends
  obtain ⟨outcome, u⟩ := run
  cases hends with
  | drained =>
      rw [hticks, hhead.completedUpdates_eq]
      rfl
  | closed closes =>
      exact absurd ⟨passes, state, v, _, _, hticks, hhead, congrArg Prod.fst closes⟩ hopen
  | failed => cases hok

end Silence

/-- **What a relay writes, when it closes, and how it fails.** On each channel a relay writes, in
order, the text that its completed updates have made available, as far as that can be read; if it
neither fails nor closes the stream, these are all updates. It closes the stream exactly when it is
told to at the end of the local input, that has been read, and an iteration brings nothing although
more than the idle timeout has passed since the last one in which output or the end of the input
came; so never without local input. A fault that some update reports is the only thing that ends
the loop early, and then it ends the relay: as the loss of the connection if it is a fault of that.
A relay that passes on sizes of the terminal can also end with the fault of that, as it is. -/
theorem relay_output_law (watching closeOnEnd : Bool) (script : StreamScript) (w : World) :
    (∀ channel : Channel, textSince channel.written w (relay watching closeOnEnd script w).2 =
      ((completedUpdates watching closeOnEnd (.start w) script.ticks w).filter
        (·.readFault.isNone)).flatMap channel.available) ∧
    ((relayTicks watching closeOnEnd (.start w) script.ticks w).1 = .ok () →
      .traffic .streamClosed ∉ entriesSince w (relay watching closeOnEnd script w).2 →
      completedUpdates watching closeOnEnd (.start w) script.ticks w = script.ticks) ∧
    (.traffic .streamClosed ∈ entriesSince w (relay watching closeOnEnd script w).2 ↔
      closeOnEnd = true ∧ ∃ passes state v tick rest,
        script.ticks = passes.map Pass.tick ++ tick :: rest ∧
        AtHead watching closeOnEnd w passes state v ∧ InputOver passes ∧
        TooQuiet watching passes tick v) ∧
    (w.stdin.descriptor = false →
      .traffic .streamClosed ∉ entriesSince w (relay watching closeOnEnd script w).2) ∧
    ∀ halt, (relayTicks watching closeOnEnd (.start w) script.ticks w).1 = .error halt →
      (relay watching closeOnEnd script w).1 = .error halt ∧ ∃ tick ∈ script.ticks,
        (∃ fault, Reports tick fault ∧ halt = lossOf fault ∧
          ∀ detail, fault = .websocket detail ∨ fault = .os detail →
            halt = .failed (.connectionLost detail)) ∨
        watching = true ∧ tick.resize ≠ none ∧
          ∃ fault, tick.resizeFault = some fault ∧ halt = .fault fault := by
  rw [relay_world]
  have hclosed := closed_iff_tooQuiet watching closeOnEnd w script.ticks
  refine ⟨?_, ?_, hclosed, ?_, ?_⟩
  · intro channel
    obtain ⟨entries, hjournal, hwritten⟩ := written_relayTicks channel (.start w) script.ticks w
    rw [textSince_eq channel.written hjournal]
    exact hwritten
  · exact completedUpdates_of_drained
  · intro hdetached hmem
    obtain ⟨-, passes, state, v, tick, rest, -, hhead, hover, -⟩ := hclosed.mp hmem
    exact Bool.false_ne_true (hdetached.symm.trans (hhead.inStep.attached hover))
  · intro halt hhalt
    have hends : (relay watching closeOnEnd script w).1 = .error halt := by
      rw [relay_apply]
      generalize relayTicks watching closeOnEnd (.start w) script.ticks w = run at hhalt ⊢
      obtain ⟨outcome, v⟩ := run
      obtain rfl : outcome = .error halt := hhalt
      rfl
    obtain ⟨tick, htick, hfails⟩ := failsBy_of_relayTicks hhalt
    refine ⟨hends, tick, htick, ?_⟩
    cases hfails with
    | @lost fault reported =>
        refine Or.inl ⟨fault, reported, rfl, ?_⟩
        rintro detail (rfl | rfl) <;> rfl
    | unsized watched resized unsent => exact Or.inr ⟨watched, resized, _, unsent, rfl⟩

/-- Output after the end of the input puts the closing off. A second of silence is not too long, two
seconds are, and what would come after them is not written. -/
theorem relay_output_idle_close :
    let w := { World.empty with stdin := ⟨true, false, [], true⟩ }
    let update (elapsed : Double) (out err : String) : Tick :=
      ⟨elapsed, none, none, none, none, none, none, out, err⟩
    let ticks := [update 0 "a" "", update 1 "" "b", update 1 "" "", update 1 "" "",
      update 1 "never" ""]
    let after := (relay false true ⟨none, none, ticks, "", none, false⟩ w).2
    textSince Channel.stdout.written w after = ['a'] ∧
      textSince Channel.stderr.written w after = ['b'] ∧
      .traffic .streamClosed ∈ entriesSince w after := by
  intro w update ticks after
  obtain ⟨hwritten, -, hclosed, -⟩ :=
    relay_output_law false true ⟨none, none, ticks, "", none, false⟩ w
  refine ⟨(hwritten .stdout).trans (by decide +kernel),
    (hwritten .stderr).trans (by decide +kernel), hclosed.mpr ?_⟩
  let s₁ : Relaying := ⟨false, none, some 0⟩
  let s₂ : Relaying := ⟨false, none, some 1⟩
  let v₁ := (relayOnce false true (.start w) (update 0 "a" "") w).2
  let v₂ := (relayOnce false true s₁ (update 1 "" "b") v₁).2
  let v₃ := (relayOnce false true s₂ (update 1 "" "") v₂).2
  have hended : relayOnce false true (.start w) (update 0 "a" "") w = (.ok (some s₁), v₁) :=
    Prod.ext (by decide +kernel) rfl
  have hheard : relayOnce false true s₁ (update 1 "" "b") v₁ = (.ok (some s₂), v₂) :=
    Prod.ext (by decide +kernel) rfl
  have hwaited : relayOnce false true s₂ (update 1 "" "") v₂ = (.ok (some s₂), v₃) :=
    Prod.ext (by decide +kernel) rfl
  have hhead := ((AtHead.first.next hended).next hheard).next hwaited
  refine ⟨rfl, _, _, _, update 1 "" "", [update 1 "never" ""], rfl, hhead, ?_, rfl, rfl, ?_, ?_⟩
  · decide +kernel
  · decide +kernel
  · exact ⟨_, rfl, by decide +kernel⟩

end PodReach.Session
