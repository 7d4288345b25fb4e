import PodReach.Proofs.Session.Iteration
import PodReach.Proofs.Text.Utf8

/-!
# What a relay sends

The decoder of a relay lives as long as its loop: through iterations that bring output, read
nothing or end the local input. At every head of the loop the texts sent so far are what the bytes
read so far stand for, and the end of the input adds what was left unfinished, once. After it
nothing is read and nothing is sent.
-/

namespace PodReach.Session

open World

/-- The bytes that were read in some iterations. -/
def bytesRead (passes : List Pass) : List UInt8 :=
  passes.flatMap fun pass => pass.read.getD []

/-- The end of the local input was read. -/
def InputOver (passes : List Pass) : Prop :=
  ∃ pass ∈ passes, pass.read = some []

/-- The local input with all that has arrived, if nothing of it had been read. -/
def arrivals (w : World) (passes : List Pass) : StandardInput :=
  passes.foldl (fun stdin pass => arrived pass.tick stdin) w.stdin

section Passes

variable {passes : List Pass} {pass : Pass}

@[simp]
theorem bytesRead_append :
    bytesRead (passes ++ [pass]) = bytesRead passes ++ pass.read.getD [] := by
  simp [bytesRead]

@[simp]
theorem inputOver_append :
    InputOver (passes ++ [pass]) ↔ InputOver passes ∨ pass.read = some [] := by
  simp [InputOver, or_and_right, exists_or]

theorem not_inputOver_nil : ¬ InputOver [] := by
  simp [InputOver]

theorem arrivals_append (w : World) :
    arrivals w (passes ++ [pass]) = arrived pass.tick (arrivals w passes) := by
  simp [arrivals]

end Passes

/-! ## What an iteration sends -/

/-- Neither a new size of the terminal nor output is sent as input. -/
theorem stdinText_shownEntries (watching : Bool) (tick : Tick) :
    (shownEntries watching tick).flatMap Entry.stdinText = [] := by
  rw [List.flatMap_eq_nil_iff]
  intro entry hentry
  obtain ⟨columns, rows, rfl⟩ | rfl | rfl := eq_of_mem_shownEntries hentry <;> rfl

theorem stdinText_sentEntry (text : List Char) : (sentEntry text).stdinText = text := by
  simp [sentEntry, Entry.stdinText]

theorem stdinText_tailEntries (state : Relaying) :
    (tailEntries state).flatMap Entry.stdinText = Text.decodeEnd state.partialChar := by
  unfold tailEntries
  split_ifs with hempty
  · rw [List.isEmpty_iff.mp hempty]
    rfl
  · rw [List.flatMap_singleton, stdinText_sentEntry]

section Iteration

variable {watching closeOnEnd : Bool} {state state' : Relaying} {tick : Tick} {w v v' : World}
  {passes : List Pass}

/-- Where a relay stands with the local input when it is at the head of its loop and has sent a
text: the text is what was read, the decoder is where the bytes read have left it, and nothing is
read any more once the end was. -/
structure InStep (descriptor : Bool) (passes : List Pass) (state : Relaying)
    (sent : List Char) : Prop where
  sent_open : ¬ InputOver passes → sent = Text.decodeSoFar (bytesRead passes)
  sent_over : InputOver passes → sent = Text.decodeUtf8 (bytesRead passes)
  unfinished : ¬ InputOver passes →
    state.partialChar = (Text.decodePiece none (bytesRead passes)).1
  reading_iff : state.reading = true ↔ descriptor = true ∧ ¬ InputOver passes
  attached : InputOver passes → descriptor = true

theorem inStep_start (w : World) : InStep w.stdin.descriptor [] (.start w) [] where
  sent_open _ := rfl
  sent_over h := absurd h not_inputOver_nil
  unfinished _ := rfl
  reading_iff := (and_iff_left not_inputOver_nil).symm
  attached h := absurd h not_inputOver_nil

theorem InStep.deaf {descriptor : Bool} {sent : List Char}
    (h : InStep descriptor passes state sent) (hover : InputOver passes) :
    state.reading = false := by
  rw [← Bool.not_eq_true, h.reading_iff]
  exact fun hreading => hreading.2 hover

/-- An iteration that reads nothing sends nothing. -/
theorem InStep.idle {descriptor : Bool} {sent : List Char} {pass : Pass}
    (h : InStep descriptor passes state sent) (hread : pass.read = none)
    (hpartial : state'.partialChar = state.partialChar)
    (hreading : state'.reading = state.reading) :
    InStep descriptor (passes ++ [pass]) state' sent := by
  have hbytes : bytesRead (passes ++ [pass]) = bytesRead passes := by simp [hread]
  have hsame : InputOver (passes ++ [pass]) ↔ InputOver passes := by simp [hread]
  constructor
  · rw [hsame, hbytes]
    exact h.sent_open
  · rw [hsame, hbytes]
    exact h.sent_over
  · rw [hsame, hbytes, hpartial]
    exact h.unfinished
  · rw [hsame, hreading]
    exact h.reading_iff
  · rw [hsame]
    exact h.attached

/-- Every iteration keeps a relay in step. -/
theorem InStep.next {descriptor : Bool} {sent : List Char}
    (h : InStep descriptor passes state sent)
    (hgoes : relayOnce watching closeOnEnd state tick v = (.ok (some state'), v')) :
    InStep descriptor (passes ++ [passOf state tick v]) state'
      (sent ++ (followEntries state (passOf state tick v).read
        (.ok (some state'))).flatMap Entry.stdinText) := by
  obtain ⟨read, hpass, hfollows⟩ := follows_of_goesOn hgoes
  rw [hpass]
  cases hfollows with
  | heard | waited | deaf | unreadable =>
      rw [followEntries, List.flatMap_nil, List.append_nil]
      exact h.idle hpass rfl rfl
  | ended unmeasured reading last _ =>
      obtain ⟨hdescriptor, hopen⟩ := h.reading_iff.mp reading
      have hover : InputOver (passes ++ [passOf state tick v]) :=
        inputOver_append.mpr (Or.inr hpass)
      have hbytes : bytesRead (passes ++ [passOf state tick v]) = bytesRead passes := by
        simp [hpass]
      constructor
      · exact absurd hover
      · intro _
        rw [followEntries, stdinText_tailEntries, hbytes, h.sent_open hopen, h.unfinished hopen]
        rfl
      · exact absurd hover
      · simp [hover]
      · exact fun _ => hdescriptor
  | @passed bytes unmeasured reading arrived nonempty _ =>
      obtain ⟨hdescriptor, hopen⟩ := h.reading_iff.mp reading
      have hopen' : ¬ InputOver (passes ++ [passOf state tick v]) := by
        rw [inputOver_append, hpass, Option.some.injEq]
        exact not_or.mpr ⟨hopen, nonempty⟩
      have hbytes : bytesRead (passes ++ [passOf state tick v]) = bytesRead passes ++ bytes := by
        simp [hpass]
      constructor
      · intro _
        rw [followEntries, List.flatMap_singleton, stdinText_sentEntry, hbytes,
          Text.decodeSoFar_append, h.sent_open hopen, h.unfinished hopen]
        exact nonempty
      · exact fun hover => absurd hover hopen'
      · intro _
        rw [hbytes, Text.decodePiece_append, ← h.unfinished hopen]
      · simp [hopen', hdescriptor, reading]
      · exact fun hover => absurd hover hopen'

/-- At every head of the loop a relay is in step. -/
theorem AtHead.inStep (h : AtHead watching closeOnEnd w passes state v) :
    InStep w.stdin.descriptor passes state (textSince Entry.stdinText w v) := by
  induction h with
  | first =>
      rw [textSince_eq _ (List.append_nil _).symm]
      exact inStep_start w
  | next before goesOn ih =>
      rw [textSince_append _ before.journal_grown (journal_relayOnce goesOn), List.flatMap_append,
        stdinText_shownEntries, List.nil_append]
      exact ih.next goesOn

/-! ## What is read is what arrives -/

/-- The local input that is left: the bytes read and those left are the bytes that have arrived. -/
structure Conserved (w : World) (passes : List Pass) (v : World) : Prop where
  bytes : bytesRead passes ++ v.stdin.pieces.flatten = (arrivals w passes).pieces.flatten
  ended : v.stdin.ended = (arrivals w passes).ended

theorem ended_arrived {stdin stdin' : StandardInput} (tick : Tick)
    (h : stdin.ended = stdin'.ended) :
    (arrived tick stdin).ended = (arrived tick stdin').ended := by
  unfold arrived queueInput
  cases tick.input with
  | none => exact h
  | some input =>
      cases hended : stdin'.ended <;> rw [hended] at h <;> cases input <;> simp [h, hended]

/-- What arrives comes after what was there. -/
theorem exists_arrived {stdin stdin' : StandardInput} (tick : Tick)
    (h : stdin.ended = stdin'.ended) : ∃ more, (arrived tick stdin).pieces = stdin.pieces ++ more ∧
      (arrived tick stdin').pieces = stdin'.pieces ++ more := by
  unfold arrived queueInput
  cases tick.input with
  | none => exact ⟨[], by simp, by simp⟩
  | some input =>
      cases hended : stdin'.ended <;> rw [hended] at h
      · cases input with
        | piece bytes => exact ⟨[bytes], by simp [h]⟩
        | ended => exact ⟨[], by simp [h]⟩
      · exact ⟨[], by simp [h]⟩

theorem stdin_of_follows {closeOnEnd received : Bool} {sendFault : Option Fault} {u : World}
    {read : Option (List UInt8)} {outcome : Except Halt (Option Relaying)}
    (h : Follows closeOnEnd received sendFault state u read outcome v') :
    v'.stdin.ended = u.stdin.ended ∧
      read.getD [] ++ v'.stdin.pieces.flatten = u.stdin.pieces.flatten := by
  cases h with
  | heard | closed | waited | deaf | unreadable => exact ⟨rfl, rfl⟩
  | ended _ _ last _ => exact ⟨u.stdin.ended_afterRead, (last ▸ u.stdin.flatten_pieces).symm⟩
  | passed _ _ next _ _ => exact ⟨u.stdin.ended_afterRead, (next ▸ u.stdin.flatten_pieces).symm⟩
  | unsent _ _ next _ => exact ⟨u.stdin.ended_afterRead, (next ▸ u.stdin.flatten_pieces).symm⟩

theorem Conserved.next (h : Conserved w passes v)
    (hgoes : relayOnce watching closeOnEnd state tick v = (.ok (some state'), v')) :
    Conserved w (passes ++ [passOf state tick v]) v' := by
  obtain ⟨read, hread, hfollows⟩ := follows_of_goesOn hgoes
  obtain ⟨hended, hbytes⟩ := stdin_of_follows hfollows
  obtain ⟨more, hmore, hmore'⟩ := exists_arrived tick h.ended
  constructor
  · rw [bytesRead_append, arrivals_append, List.append_assoc, hread, hbytes]
    change _ ++ (arrived tick v.stdin).pieces.flatten = (arrived tick _).pieces.flatten
    rw [hmore, hmore', List.flatten_append, List.flatten_append, ← h.bytes, List.append_assoc]
  · rw [hended, arrivals_append]
    exact ended_arrived tick h.ended

theorem AtHead.conserved (h : AtHead watching closeOnEnd w passes state v) :
    Conserved w passes v := by
  induction h with
  | first => exact ⟨rfl, rfl⟩
  | next before goesOn ih => exact ih.next goesOn

/-! ## After the end of the input -/

/-- A relay that does not read leaves the local input alone and sends nothing. -/
theorem deaf_iteration {outcome : Except Halt (Option Relaying)} (hdeaf : state.reading = false)
    (h : relayOnce watching closeOnEnd state tick v = (outcome, v')) :
    (v'.stdin = v.stdin ∨ v'.stdin = arrived tick v.stdin) ∧
      ∀ text, .traffic (.stdin text) ∉ entriesSince v v' := by
  have hread : readNow state (arrived tick v.stdin) = none := by
    unfold readNow
    rw [hdeaf]
    cases state.silentSince <;> rfl
  rw [entriesSince_eq (journal_relayOnce h), hread]
  constructor
  · cases relayOnce_iterates h with
    | failed _ _ unread => exact unread
    | unread _ _ => exact Or.inr rfl
    | followed _ _ reads follows =>
        obtain rfl := hread.symm.trans reads
        cases follows <;> exact Or.inr rfl
  · intro text hmem
    obtain hshown | hfollow := List.mem_append.mp hmem
    · obtain ⟨columns, rows, hentry⟩ | hentry | hentry := eq_of_mem_shownEntries hshown <;>
        cases hentry
    · rcases outcome with _ | _ | _ <;> simp [followEntries] at hfollow

/-- The last iteration of a relay sends nothing. -/
theorem EndsAt.sends_nothing {rest : List Tick} {outcome : Except Halt Unit}
    (hgrown : w.journal.toList <+: v.journal.toList)
    (h : EndsAt watching closeOnEnd state v rest outcome v') :
    textSince Entry.stdinText w v' = textSince Entry.stdinText w v := by
  cases h with
  | drained => rfl
  | closed last | failed last =>
      rw [textSince_append _ hgrown (journal_relayOnce last), List.flatMap_append,
        stdinText_shownEntries]
      exact List.append_nil _

end Iteration

/-- **Local input is passed on without loss, repetition or a trace of how it was cut.** Every relay
comes to a last head of its loop and sends nothing after it. At every head of the loop, the bytes
read and those left are the bytes that have arrived. As long as their end was not read, the texts
sent are, joined, the longest text that is certain however the input goes on, but for the two
replacements that are withheld where the bytes end in the first two of a surrogate; once it was
read, they are what the bytes stand for, with replacements for what was held back, and no iteration
takes local input or sends anything. So two relays that have read the same bytes have sent the same
text. -/
theorem relay_input_law (watching closeOnEnd : Bool) (script : StreamScript) (w : World) :
    (∃ passes state v rest, script.ticks = passes.map Pass.tick ++ rest ∧
      AtHead watching closeOnEnd w passes state v ∧
      EndsAt watching closeOnEnd state v rest
        (relayTicks watching closeOnEnd (.start w) script.ticks w).1
        (relay watching closeOnEnd script w).2 ∧
      textSince Entry.stdinText w (relay watching closeOnEnd script w).2 =
        textSince Entry.stdinText w v) ∧
    ∀ passes state v, AtHead watching closeOnEnd w passes state v →
      (∀ rest, relayTicks watching closeOnEnd (.start w) (passes.map Pass.tick ++ rest) w =
        relayTicks watching closeOnEnd state rest v) ∧
      bytesRead passes ++ v.stdin.pieces.flatten = (arrivals w passes).pieces.flatten ∧
      (InputOver passes ↔ w.stdin.descriptor = true ∧ state.reading = false) ∧
      (¬ InputOver passes →
        textSince Entry.stdinText w v = Text.decodeSoFar (bytesRead passes) ∧
        ∀ text, Text.Certain (bytesRead passes) text ↔
          text <+: textSince Entry.stdinText w v ++ Text.withheld (bytesRead passes)) ∧
      (InputOver passes →
        textSince Entry.stdinText w v = Text.decodeUtf8 (bytesRead passes) ∧
        Text.Decodes (bytesRead passes) (textSince Entry.stdinText w v) ∧
        ∀ tick outcome v', relayOnce watching closeOnEnd state tick v = (outcome, v') →
          (v'.stdin = v.stdin ∨ v'.stdin = arrived tick v.stdin) ∧
          ∀ text, .traffic (.stdin text) ∉ entriesSince v v') ∧
      ∀ watching' closeOnEnd' w' passes' state' v',
        AtHead watching' closeOnEnd' w' passes' state' v' →
        bytesRead passes' = bytesRead passes → (InputOver passes' ↔ InputOver passes) →
        textSince Entry.stdinText w' v' = textSince Entry.stdinText w v := by
  constructor
  · obtain ⟨passes, state, v, rest, hticks, hhead, hends⟩ :=
      exists_last_head watching closeOnEnd w script.ticks
    rw [relay_world]
    exact ⟨passes, state, v, rest, hticks, hhead, hends, hends.sends_nothing hhead.journal_grown⟩
  · intro passes state v hhead
    have hstep := hhead.inStep
    refine ⟨hhead.relayTicks_eq, hhead.conserved.bytes, ?_, ?_, ?_, ?_⟩
    · constructor
      · exact fun hover => ⟨hstep.attached hover, hstep.deaf hover⟩
      · rintro ⟨hdescriptor, hdeaf⟩
        by_contra hopen
        exact Bool.false_ne_true (hdeaf.symm.trans (hstep.reading_iff.mpr ⟨hdescriptor, hopen⟩))
    · intro hopen
      rw [hstep.sent_open hopen]
      exact ⟨rfl, fun text => Text.certain_iff⟩
    · intro hover
      rw [hstep.sent_over hover]
      exact ⟨rfl, Text.decodes_decodeUtf8 _,
        fun tick outcome v' => deaf_iteration (hstep.deaf hover)⟩
    · intro watching' closeOnEnd' w' passes' state' v' hhead' hbytes hsame
      have hstep' := hhead'.inStep
      by_cases hover : InputOver passes
      · rw [hstep'.sent_over (hsame.mpr hover), hstep.sent_over hover, hbytes]
      · rw [hstep'.sent_open (mt hsame.mp hover), hstep.sent_open hover, hbytes]

/-- The input ends inside a character: a replacement is sent for it, though nothing was while the
character could still be finished. -/
theorem relay_input_cut_inside_char :
    let w := { World.empty with stdin := ⟨true, false, [[0xE4, 0xBD]], true⟩ }
    let tick : Tick := ⟨0, none, none, none, none, none, none, "", ""⟩
    ∃ passes state v, AtHead false true w passes state v ∧ passes.map Pass.tick = [tick, tick] ∧
      InputOver passes ∧ bytesRead passes = [0xE4, 0xBD] ∧
      Text.Decodes [0xE4, 0xBD] (textSince Entry.stdinText w v) ∧
      textSince Entry.stdinText w v = [Char.ofNat 0xFFFD] := by
  intro w tick
  let s₁ : Relaying := { Relaying.start w with
    partialChar := (Text.decodePiece none [0xE4, 0xBD]).1 }
  let v₁ := (relayOnce false true (.start w) tick w).2
  let v₂ := (relayOnce false true s₁ tick v₁).2
  have hread : relayOnce false true (.start w) tick w = (.ok (some s₁), v₁) := by rfl
  have hended : relayOnce false true s₁ tick v₁ =
      (.ok (some { s₁ with reading := false, silentSince := some v₂.clock }), v₂) := by rfl
  have hhead := (AtHead.first.next hread).next hended
  have hover : InputOver [passOf (.start w) tick w, passOf s₁ tick v₁] :=
    ⟨passOf s₁ tick v₁, by simp, rfl⟩
  obtain ⟨htext, hdecodes, -⟩ :=
    ((relay_input_law false true .silent w).2 _ _ _ hhead).2.2.2.2.1 hover
  exact ⟨_, _, _, hhead, rfl, hover, rfl, hdecodes, htext.trans (by decide)⟩

end PodReach.Session
