import Mathlib.Tactic.SplitIfs
import PodReach.Proofs.World.Journal
import PodReach.Session.Relay

/-!
# One iteration of a relay

An update that completes, its output, and then one of three things: silence is measured, local input
is read and passed on, or nothing. This module says once what an iteration can do, in which order it
writes it down, and how a whole run is made of iterations. What follows for local input, for output
and for the end of a session is derived from that elsewhere.
-/

namespace PodReach

namespace Entry

/-- The text that an entry sends to the other side. -/
def stdinText : Entry → List Char
  | traffic (.stdin text) => text.toList
  | _ => []

end Entry

namespace StandardInput

/-- What the next read returns, if there is something to read. -/
def next? (stdin : StandardInput) : Option (List UInt8) :=
  match stdin.pieces with
  | piece :: _ => some (piece.take Session.readSize)
  | [] => if stdin.ended then some [] else none

/-- What is left after a read. -/
def afterRead (stdin : StandardInput) : StandardInput :=
  match stdin.pieces with
  | piece :: rest =>
    let left := piece.drop Session.readSize
    { stdin with pieces := if left.isEmpty then rest else left :: rest }
  | [] => stdin

/-- Nothing is taken where there is nothing to read. -/
theorem afterRead_of_none {stdin : StandardInput} (h : stdin.next? = none) :
    stdin.afterRead = stdin := by
  unfold next? at h
  unfold afterRead
  split at h
  · cases h
  · rfl

@[simp]
theorem ended_afterRead (stdin : StandardInput) : stdin.afterRead.ended = stdin.ended := by
  unfold afterRead
  split <;> rfl

/-- A read takes bytes from the front. -/
theorem flatten_pieces (stdin : StandardInput) :
    stdin.pieces.flatten = stdin.next?.getD [] ++ stdin.afterRead.pieces.flatten := by
  unfold next? afterRead
  cases hpieces : stdin.pieces with
  | nil => cases hended : stdin.ended <;> simp [hpieces]
  | cons piece rest =>
      dsimp only [Option.getD_some]
      have hcut := List.take_append_drop Session.readSize piece
      split_ifs with hleft
      · rw [List.isEmpty_iff.mp hleft, List.append_nil] at hcut
        rw [List.flatten_cons, hcut]
      · rw [List.flatten_cons, List.flatten_cons, ← List.append_assoc, hcut]

end StandardInput

namespace Session

open Run World

/-! ## The parts of an iteration -/

/-- What is done as part of a relay ends as it does, but for the loss of a connection. -/
theorem inRelay_apply {α : Type} (action : Run α) (w : World) :
    inRelay action w = ((action w).1.mapError asConnectionLost, (action w).2) := by
  unfold inRelay
  rw [tryCatch_apply]
  rcases action w with ⟨halt | a, w'⟩ <;> rfl

/-- The halt that a fault is in a relay. -/
def lossOf (fault : Fault) : Halt :=
  asConnectionLost (.fault fault)

/-- The halt with which an update ends, if it does not complete: the loss of the connection, or the
fault of passing on a new size of the terminal. -/
def updateHalt (watching : Bool) (tick : Tick) : Option Halt :=
  match tick.fault, tick.resize with
  | some fault, _ => some (lossOf fault)
  | none, some _ => if watching then tick.resizeFault.map .fault else none
  | none, none => none

/-- An update reports a fault: its own, or that of reading or sending after it. -/
def Reports (tick : Tick) (fault : Fault) : Prop :=
  tick.fault = some fault ∨ tick.readFault = some fault ∨ tick.sendFault = some fault

/-- How a relay can fail because of an update: a fault that the update reports counts as the loss of
the connection, but one of passing on a new size of the terminal is left as it is. -/
inductive FailsBy (watching : Bool) (tick : Tick) : Halt → Prop
  | lost {fault : Fault} (reported : Reports tick fault) : FailsBy watching tick (lossOf fault)
  | unsized {fault : Fault} (watched : watching = true) (resized : tick.resize ≠ none)
      (unsent : tick.resizeFault = some fault) : FailsBy watching tick (.fault fault)

theorem failsBy_of_updateHalt {watching : Bool} {tick : Tick} {halt : Halt}
    (h : updateHalt watching tick = some halt) : FailsBy watching tick halt := by
  unfold updateHalt at h
  split at h
  · next hfault =>
      rw [← Option.some.inj h]
      exact .lost (Or.inl hfault)
  · next hresize =>
      split_ifs at h with hwatching
      obtain ⟨fault, hunsent, rfl⟩ := Option.map_eq_some_iff.mp h
      exact .unsized hwatching (by simp [hresize]) hunsent
  · cases h

/-- The local input once an update has brought what it brings. -/
def arrived (tick : Tick) (stdin : StandardInput) : StandardInput :=
  match tick.input with
  | some input => queueInput input stdin
  | none => stdin

/-- What an update writes down. -/
def resizeEntries (watching : Bool) (tick : Tick) : List Entry :=
  match tick.resize with
  | some (columns, rows) => if watching then [.traffic (.resized columns rows)] else []
  | none => []

/-- The world after an update that completes. -/
def updated (watching : Bool) (tick : Tick) (w : World) : World :=
  { w with
    clock := w.clock.add tick.elapsed
    stdin := arrived tick w.stdin
    terminalSize := tick.resize.getD w.terminalSize }.noted (resizeEntries watching tick)

/-- Whether an update makes text available. -/
def hasOutput (tick : Tick) : Bool :=
  !tick.out.isEmpty || !tick.err.isEmpty

/-- What is written to the local terminal after an update. -/
def outputEntries (tick : Tick) : List Entry :=
  (if tick.out.isEmpty then [] else [.traffic (.stdout tick.out)]) ++
    if tick.err.isEmpty then [] else [.traffic (.stderr tick.err)]

/-- What an update and its output write down, as far as they get. -/
def shownEntries (watching : Bool) (tick : Tick) : List Entry :=
  if updateHalt watching tick ≠ none then []
  else if tick.readFault ≠ none then resizeEntries watching tick
  else resizeEntries watching tick ++ outputEntries tick

theorem eq_of_mem_resizeEntries {watching : Bool} {tick : Tick} {entry : Entry}
    (h : entry ∈ resizeEntries watching tick) :
    ∃ columns rows, entry = .traffic (.resized columns rows) := by
  unfold resizeEntries at h
  split at h
  · split_ifs at h
    · exact ⟨_, _, List.mem_singleton.mp h⟩
    · cases h
  · cases h

theorem eq_of_mem_outputEntries {tick : Tick} {entry : Entry} (h : entry ∈ outputEntries tick) :
    entry = .traffic (.stdout tick.out) ∨ entry = .traffic (.stderr tick.err) := by
  obtain hout | herr := List.mem_append.mp h
  · left
    split_ifs at hout
    · cases hout
    · exact List.mem_singleton.mp hout
  · right
    split_ifs at herr
    · cases herr
    · exact List.mem_singleton.mp herr

/-- What is written down up to here is about the size of the terminal or about output. -/
theorem eq_of_mem_shownEntries {watching : Bool} {tick : Tick} {entry : Entry}
    (h : entry ∈ shownEntries watching tick) :
    (∃ columns rows, entry = .traffic (.resized columns rows)) ∨
      entry = .traffic (.stdout tick.out) ∨ entry = .traffic (.stderr tick.err) := by
  unfold shownEntries at h
  split_ifs at h
  · cases h
  · exact Or.inl (eq_of_mem_resizeEntries h)
  · obtain hresize | houtput := List.mem_append.mp h
    · exact Or.inl (eq_of_mem_resizeEntries hresize)
    · exact Or.inr (eq_of_mem_outputEntries houtput)

section Parts

variable {watching closeOnEnd received : Bool} {tick : Tick} {w : World} {fault : Fault}

theorem update_of_completes (h : updateHalt watching tick = none) (w : World) :
    update watching tick w = (.ok (), updated watching tick w) := by
  obtain ⟨elapsed, input, size?, fault, readFault, sendFault, resizeFault, out, err⟩ := tick
  cases fault with
  | some fault => cases h
  | none =>
      cases size? with
      | none => cases input <;> simp [updated, resizeEntries, arrived] <;> rfl
      | some size =>
          cases watching with
          | false => cases input <;> simp [updated, resizeEntries, arrived] <;> rfl
          | true =>
              cases resizeFault with
              | some fault => cases h
              | none => cases input <;> rfl

/-- An update that fails has written nothing down and read nothing. -/
theorem update_of_fails {halt : Halt} (h : updateHalt watching tick = some halt) (w : World) :
    ∃ w', update watching tick w = (.error halt, w') ∧ w'.journal = w.journal ∧
      (w'.stdin = w.stdin ∨ w'.stdin = arrived tick w.stdin) := by
  obtain ⟨elapsed, input, size?, tickFault, readFault, sendFault, resizeFault, out, err⟩ := tick
  cases tickFault with
  | some tickFault =>
      cases h
      exact ⟨_, rfl, rfl, Or.inl rfl⟩
  | none =>
      cases size? with
      | none => cases h
      | some size =>
          cases watching with
          | false => cases h
          | true =>
              cases resizeFault with
              | none => cases h
              | some resizeFault =>
                  cases h
                  cases input <;> exact ⟨_, rfl, rfl, Or.inr rfl⟩

theorem writeOutput_of_readable (h : tick.readFault = none) (w : World) :
    writeOutput tick w = (.ok (hasOutput tick), w.noted (outputEntries tick)) := by
  unfold writeOutput hasOutput outputEntries
  rw [h]
  cases tick.out.isEmpty <;> cases tick.err.isEmpty <;> simp [noted] <;> rfl

theorem writeOutput_of_unreadable (h : tick.readFault = some fault) (w : World) :
    writeOutput tick w = (.error (.fault fault), w) := by
  unfold writeOutput
  rw [h]
  rfl

theorem readInput_apply (w : World) :
    readInput w = (.ok w.stdin.next?, { w with stdin := w.stdin.afterRead }) := by
  unfold readInput StandardInput.next? StandardInput.afterRead
  rw [bind_of_ok (get_apply w)]
  cases hpieces : w.stdin.pieces with
  | nil => rfl
  | cons piece rest => rfl

end Parts

/-! ## What follows an update -/

/-- What is read of the local input in an iteration. Silence is waited for only after the end of the
input, and then nothing is read. -/
def readNow (state : Relaying) (stdin : StandardInput) : Option (List UInt8) :=
  match state.silentSince with
  | some _ => none
  | none => if state.reading then stdin.next? else none

/-- What sending a text to the other side writes down. -/
def sentEntry (text : List Char) : Entry :=
  .traffic (.stdin (String.ofList text))

/-- What is sent at the end of the local input. -/
def tailEntries (state : Relaying) : List Entry :=
  if (Text.decodeEnd state.partialChar).isEmpty then []
  else [sentEntry (Text.decodeEnd state.partialChar)]

/-- Everything that can follow an update whose output was written, in the world after that: what is
read of the local input, how the iteration ends, and in which world. -/
inductive Follows (closeOnEnd received : Bool) (sendFault : Option Fault) (state : Relaying)
    (w : World) : Option (List UInt8) → Except Halt (Option Relaying) → World → Prop
  /-- Output after the end of the input: silence is counted from now. -/
  | heard {since : Double} (waiting : state.silentSince = some since) (output : received = true) :
      Follows closeOnEnd received sendFault state w none
        (.ok (some { state with silentSince := some w.clock })) w
  /-- Silence that lasts too long: the relay closes the stream. -/
  | closed {since : Double} (waiting : state.silentSince = some since) (silent : received = false)
      (long : idleTimeout.lt (w.clock.sub since) = true) :
      Follows closeOnEnd received sendFault state w none (.ok none)
        (w.noted [.traffic .streamClosed])
  /-- Silence that may go on. -/
  | waited {since : Double} (waiting : state.silentSince = some since) (silent : received = false)
      (short : idleTimeout.lt (w.clock.sub since) = false) :
      Follows closeOnEnd received sendFault state w none (.ok (some state)) w
  /-- The input has ended, or there never was one. -/
  | deaf (unmeasured : state.silentSince = none) (deaf : state.reading = false) :
      Follows closeOnEnd received sendFault state w none (.ok (some state)) w
  /-- There is nothing to read. -/
  | unreadable (unmeasured : state.silentSince = none) (reading : state.reading = true)
      (empty : w.stdin.next? = none) :
      Follows closeOnEnd received sendFault state w none (.ok (some state)) w
  /-- The input ends, and an unfinished character with it. -/
  | ended (unmeasured : state.silentSince = none) (reading : state.reading = true)
      (last : w.stdin.next? = some [])
      (sent : Text.decodeEnd state.partialChar = [] ∨ sendFault = none) :
      Follows closeOnEnd received sendFault state w (some [])
        (.ok (some { state with
          reading := false
          silentSince := if closeOnEnd then some w.clock else none }))
        ({ w with stdin := w.stdin.afterRead }.noted (tailEntries state))
  /-- Input is passed on as text. -/
  | passed {bytes : List UInt8} (unmeasured : state.silentSince = none)
      (reading : state.reading = true) (read : w.stdin.next? = some bytes)
      (nonempty : bytes ≠ []) (sent : sendFault = none) :
      Follows closeOnEnd received sendFault state w (some bytes)
        (.ok (some { state with partialChar := (Text.decodePiece state.partialChar bytes).1 }))
        ({ w with stdin := w.stdin.afterRead }.noted
          [sentEntry (Text.decodePiece state.partialChar bytes).2])
  /-- Input cannot be passed on. -/
  | unsent {bytes : List UInt8} {fault : Fault} (unmeasured : state.silentSince = none)
      (reading : state.reading = true) (read : w.stdin.next? = some bytes)
      (unsent : sendFault = some fault) :
      Follows closeOnEnd received sendFault state w (some bytes) (.error (lossOf fault))
        { w with stdin := w.stdin.afterRead }

/-- What is written down after the output of an update, by what was read and how the iteration
ends. -/
def followEntries (state : Relaying) :
    Option (List UInt8) → Except Halt (Option Relaying) → List Entry
  | _, .error _ => []
  | _, .ok none => [.traffic .streamClosed]
  | none, .ok (some _) => []
  | some [], .ok (some _) => tailEntries state
  | some bytes, .ok (some _) => [sentEntry (Text.decodePiece state.partialChar bytes).2]

theorem eq_of_mem_followEntries {state : Relaying} {read : Option (List UInt8)}
    {outcome : Except Halt (Option Relaying)} {entry : Entry}
    (h : entry ∈ followEntries state read outcome) :
    (entry = .traffic .streamClosed ∧ outcome = .ok none) ∨ ∃ text, entry = sentEntry text := by
  unfold followEntries at h
  split at h
  · cases h
  · exact Or.inl ⟨List.mem_singleton.mp h, rfl⟩
  · cases h
  · unfold tailEntries at h
    split_ifs at h
    · cases h
    · exact Or.inr ⟨_, List.mem_singleton.mp h⟩
  · exact Or.inr ⟨_, List.mem_singleton.mp h⟩

theorem Follows.journal_eq {closeOnEnd received : Bool} {sendFault : Option Fault}
    {state : Relaying} {w w' : World} {read : Option (List UInt8)}
    {outcome : Except Halt (Option Relaying)}
    (h : Follows closeOnEnd received sendFault state w read outcome w') :
    w'.journal.toList = w.journal.toList ++ followEntries state read outcome := by
  cases h with
  | heard | waited | deaf | unreadable => simp [followEntries]
  | closed => exact journal_noted w _
  | ended => exact journal_noted _ _
  | @passed bytes _ _ _ nonempty _ =>
      obtain ⟨b, rest, rfl⟩ := List.exists_cons_of_ne_nil nonempty
      exact journal_noted _ _
  | unsent => simp [followEntries]

theorem map_some_of_ok {α : Type} {action : Run α} {w w' : World} {a : α}
    (h : action w = (.ok a, w')) : (some <$> action) w = (.ok (some a), w') := by
  rw [map_eq_pure_bind, bind_of_ok h]
  rfl

theorem map_some_of_error {α : Type} {action : Run α} {w w' : World} {halt : Halt}
    (h : action w = (.error halt, w')) : (some <$> action) w = (.error halt, w') := by
  rw [map_eq_pure_bind, bind_of_error h]

theorem sendInput_of_sent (text : List Char) (w : World) :
    sendInput none text w = (.ok (), w.noted [sentEntry text]) :=
  record_apply _ w

theorem sendInput_of_unsent (fault : Fault) (text : List Char) (w : World) :
    sendInput (some fault) text w = (.error (.fault fault), w) := rfl

/-- The end of the local input adds a replacement for an unfinished character. -/
theorem forwardInput_of_end (closeOnEnd : Bool) {sendFault : Option Fault} {state : Relaying}
    {w : World} (h : w.stdin.next? = some [])
    (hsent : Text.decodeEnd state.partialChar = [] ∨ sendFault = none) :
    forwardInput closeOnEnd sendFault state w =
      (.ok { state with
          reading := false
          silentSince := if closeOnEnd then some w.clock else none },
        { w with stdin := w.stdin.afterRead }.noted (tailEntries state)) := by
  unfold forwardInput
  rw [bind_of_ok (readInput_apply w), h]
  obtain ⟨reading, partialChar, silentSince⟩ := state
  cases partialChar with
  | none => cases closeOnEnd <;> simp [tailEntries, Text.decodeEnd] <;> rfl
  | some p =>
      have htail : Text.decodeEnd (some p) ≠ [] := by cases p <;> simp [Text.decodeEnd]
      obtain rfl : sendFault = none := hsent.resolve_left htail
      cases p <;> cases closeOnEnd <;> rfl

theorem forwardInput_of_unsent_end (closeOnEnd : Bool) (fault : Fault) {state : Relaying}
    {w : World} (h : w.stdin.next? = some []) (htail : Text.decodeEnd state.partialChar ≠ []) :
    forwardInput closeOnEnd (some fault) state w =
      (.error (.fault fault), { w with stdin := w.stdin.afterRead }) := by
  unfold forwardInput
  rw [bind_of_ok (readInput_apply w), h]
  obtain ⟨reading, partialChar, silentSince⟩ := state
  cases partialChar with
  | none => exact absurd rfl htail
  | some p => cases p <;> rfl

theorem forwardInput_follows (closeOnEnd received : Bool) (sendFault : Option Fault)
    {state : Relaying} {w : World} (hunmeasured : state.silentSince = none)
    (hreading : state.reading = true) :
    ∃ outcome w', (some <$> forwardInput closeOnEnd sendFault state) w = (outcome, w') ∧
      Follows closeOnEnd received sendFault state w w.stdin.next?
        (outcome.mapError asConnectionLost) w' := by
  let read := { w with stdin := w.stdin.afterRead }
  cases hnext : w.stdin.next? with
  | none =>
      have hforward : forwardInput closeOnEnd sendFault state w = (.ok state, read) := by
        unfold forwardInput
        rw [bind_of_ok (readInput_apply w), hnext]
        rfl
      have hread : read = w := by
        simp only [read, StandardInput.afterRead_of_none hnext]
      exact ⟨_, _, (map_some_of_ok hforward).trans (by rw [hread]),
        .unreadable hunmeasured hreading hnext⟩
  | some bytes =>
      cases bytes with
      | nil =>
          by_cases hsent : Text.decodeEnd state.partialChar = [] ∨ sendFault = none
          · exact ⟨_, _, map_some_of_ok (forwardInput_of_end closeOnEnd hnext hsent),
              .ended hunmeasured hreading hnext hsent⟩
          · obtain ⟨htail, hfault⟩ := not_or.mp hsent
            obtain ⟨fault, rfl⟩ := Option.ne_none_iff_exists'.mp hfault
            exact ⟨_, _,
              map_some_of_error (forwardInput_of_unsent_end closeOnEnd fault hnext htail),
              .unsent hunmeasured hreading hnext rfl⟩
      | cons b rest =>
          have hforward : forwardInput closeOnEnd sendFault state w =
              (sendInput sendFault (Text.decodePiece state.partialChar (b :: rest)).2 >>= fun _ =>
                pure { state with
                  partialChar := (Text.decodePiece state.partialChar (b :: rest)).1 }) read := by
            unfold forwardInput
            rw [bind_of_ok (readInput_apply w), hnext]
          cases sendFault with
          | none =>
              rw [bind_of_ok (sendInput_of_sent _ read)] at hforward
              exact ⟨_, _, map_some_of_ok hforward,
                .passed hunmeasured hreading hnext (List.cons_ne_nil _ _) rfl⟩
          | some fault =>
              rw [bind_of_error (sendInput_of_unsent fault _ read)] at hforward
              exact ⟨_, _, map_some_of_error hforward, .unsent hunmeasured hreading hnext rfl⟩

/-- What follows an update is one of these things. -/
theorem afterUpdate_follows (closeOnEnd received : Bool) (sendFault : Option Fault)
    (state : Relaying) (w : World) :
    ∃ outcome w', afterUpdate closeOnEnd received sendFault state w = (outcome, w') ∧
      Follows closeOnEnd received sendFault state w (readNow state w.stdin)
        (outcome.mapError asConnectionLost) w' := by
  unfold afterUpdate readNow
  cases hsilent : state.silentSince with
  | some since =>
      dsimp only
      rw [bind_of_ok (Clock.read_apply w)]
      cases received with
      | true => exact ⟨_, _, rfl, .heard hsilent rfl⟩
      | false =>
          cases hlong : idleTimeout.lt (w.clock.sub since) with
          | true =>
              refine ⟨.ok none, _, ?_, .closed hsilent rfl hlong⟩
              simp [noted]
              rfl
          | false =>
              refine ⟨.ok (some state), _, ?_, .waited hsilent rfl hlong⟩
              simp
              rfl
  | none =>
      cases hreading : state.reading with
      | false => exact ⟨_, _, rfl, .deaf hsilent hreading⟩
      | true => exact forwardInput_follows closeOnEnd received sendFault hsilent hreading

/-! ## Iterations -/

/-- The world in which the output of an update has been written. -/
def shown (watching : Bool) (tick : Tick) (w : World) : World :=
  (updated watching tick w).noted (outputEntries tick)

theorem journal_updated (watching : Bool) (tick : Tick) (w : World) :
    (updated watching tick w).journal.toList =
      w.journal.toList ++ resizeEntries watching tick :=
  journal_noted _ _

theorem journal_shown (watching : Bool) (tick : Tick) (w : World) :
    (shown watching tick w).journal.toList =
      w.journal.toList ++ (resizeEntries watching tick ++ outputEntries tick) := by
  rw [shown, journal_noted, journal_updated, List.append_assoc]

/-- Everything that an iteration can do. -/
inductive Iterates (watching closeOnEnd : Bool) (state : Relaying) (tick : Tick) (w : World) :
    Except Halt (Option Relaying) → World → Prop
  /-- The update fails. -/
  | failed {halt : Halt} {w' : World} (fails : updateHalt watching tick = some halt)
      (untouched : w'.journal = w.journal)
      (unread : w'.stdin = w.stdin ∨ w'.stdin = arrived tick w.stdin) :
      Iterates watching closeOnEnd state tick w (.error halt) w'
  /-- The output of the update cannot be read. -/
  | unread {fault : Fault} (completes : updateHalt watching tick = none)
      (unreadable : tick.readFault = some fault) :
      Iterates watching closeOnEnd state tick w (.error (lossOf fault)) (updated watching tick w)
  /-- The output of the update is written, and the rest follows. -/
  | followed {read : Option (List UInt8)} {outcome : Except Halt (Option Relaying)} {w' : World}
      (completes : updateHalt watching tick = none) (readable : tick.readFault = none)
      (reads : readNow state (arrived tick w.stdin) = read)
      (follows : Follows closeOnEnd (hasOutput tick) tick.sendFault state (shown watching tick w)
        read outcome w') :
      Iterates watching closeOnEnd state tick w outcome w'

section Iterations

variable {watching closeOnEnd : Bool} {state next : Relaying} {tick : Tick} {w w' : World}
  {outcome : Except Halt (Option Relaying)}

theorem relayOnce_iterates (h : relayOnce watching closeOnEnd state tick w = (outcome, w')) :
    Iterates watching closeOnEnd state tick w outcome w' := by
  unfold relayOnce at h
  cases hupdate : updateHalt watching tick with
  | some halt =>
      obtain ⟨failed, happly, hjournal, hstdin⟩ := update_of_fails hupdate w
      rw [bind_of_error happly] at h
      cases h
      exact .failed hupdate hjournal hstdin
  | none =>
      rw [bind_of_ok (update_of_completes hupdate w), inRelay_apply] at h
      unfold serveTick at h
      cases hread : tick.readFault with
      | some fault =>
          rw [bind_of_error (writeOutput_of_unreadable hread _)] at h
          cases h
          exact .unread hupdate hread
      | none =>
          obtain ⟨outcome', followed, hafter, hfollows⟩ := afterUpdate_follows closeOnEnd
            (hasOutput tick) tick.sendFault state (shown watching tick w)
          rw [bind_of_ok (writeOutput_of_readable hread _)] at h
          change (Except.mapError _ (afterUpdate _ _ _ _ (shown watching tick w)).1,
            (afterUpdate _ _ _ _ (shown watching tick w)).2) = _ at h
          rw [hafter] at h
          cases h
          exact .followed hupdate hread rfl hfollows

/-- An iteration whose update fails, fails with it. -/
theorem outcome_of_fails {halt : Halt} (hfails : updateHalt watching tick = some halt)
    (h : relayOnce watching closeOnEnd state tick w = (outcome, w')) :
    outcome = .error halt := by
  obtain ⟨failed, happly, -⟩ := update_of_fails hfails w
  unfold relayOnce at h
  rw [bind_of_error happly] at h
  exact (Prod.mk.inj h).1.symm

/-- An iteration fails because of its update. -/
theorem failsBy_of_relayOnce {halt : Halt}
    (h : relayOnce watching closeOnEnd state tick w = (.error halt, w')) :
    FailsBy watching tick halt := by
  cases relayOnce_iterates h with
  | failed fails _ _ => exact failsBy_of_updateHalt fails
  | unread _ unreadable => exact .lost (Or.inr (Or.inl unreadable))
  | followed _ _ _ follows =>
      cases follows with
      | unsent _ _ _ unsent => exact .lost (Or.inr (Or.inr unsent))

/-- What an iteration writes down: first what the update brought, then what follows. -/
theorem journal_relayOnce (h : relayOnce watching closeOnEnd state tick w = (outcome, w')) :
    w'.journal.toList = w.journal.toList ++ (shownEntries watching tick ++
      followEntries state (readNow state (arrived tick w.stdin)) outcome) := by
  cases relayOnce_iterates h with
  | failed fails untouched _ => simp [shownEntries, fails, untouched, followEntries]
  | unread completes unreadable =>
      rw [journal_updated]
      simp [shownEntries, completes, unreadable, followEntries]
  | followed completes readable reads follows =>
      rw [follows.journal_eq, journal_shown, reads]
      simp [shownEntries, completes, readable]

/-- A relay is one iteration and the rest of it, if the iteration leaves it going. -/
theorem relayTicks_cons (watching closeOnEnd : Bool) (state : Relaying) (tick : Tick)
    (rest : List Tick) (w : World) :
    relayTicks watching closeOnEnd state (tick :: rest) w =
      match relayOnce watching closeOnEnd state tick w with
      | (.ok (some next), w') => relayTicks watching closeOnEnd next rest w'
      | (.ok none, w') => (.ok (), w')
      | (.error halt, w') => (.error halt, w') := by
  change (relayOnce watching closeOnEnd state tick >>= fun next? => _) w = _
  rw [bind_apply]
  rcases relayOnce watching closeOnEnd state tick w with ⟨_ | _ | _, _⟩ <;> rfl

end Iterations

/-! ## The heads of the loop -/

/-- What an iteration leaves behind for those who watch a relay: what the update brought, when, and
what was read of the local input. -/
structure Pass where
  tick : Tick
  time : Double
  read : Option (List UInt8)

/-- The pass of an iteration. -/
def passOf (state : Relaying) (tick : Tick) (w : World) : Pass :=
  ⟨tick, w.clock.add tick.elapsed, readNow state (arrived tick w.stdin)⟩

@[simp]
theorem passOf_tick (state : Relaying) (tick : Tick) (w : World) :
    (passOf state tick w).tick = tick := rfl

/-- What an iteration does after which the relay goes on. -/
theorem follows_of_goesOn {watching closeOnEnd : Bool} {state next : Relaying} {tick : Tick}
    {w w' : World} (h : relayOnce watching closeOnEnd state tick w = (.ok (some next), w')) :
    ∃ read, (passOf state tick w).read = read ∧
      Follows closeOnEnd (hasOutput tick) tick.sendFault state (shown watching tick w) read
        (.ok (some next)) w' := by
  cases relayOnce_iterates h with
  | followed _ _ reads follows => exact ⟨_, reads, follows⟩

/-- Where a relay of a session starts. -/
def Relaying.start (w : World) : Relaying :=
  ⟨w.stdin.descriptor, none, none⟩

/-- A relay that starts in a world comes to the head of its loop, after some iterations, in some
state and world. -/
inductive AtHead (watching closeOnEnd : Bool) (w : World) : List Pass → Relaying → World → Prop
  | first : AtHead watching closeOnEnd w [] (.start w) w
  | next {passes : List Pass} {state state' : Relaying} {v v' : World} {tick : Tick}
      (before : AtHead watching closeOnEnd w passes state v)
      (goesOn : relayOnce watching closeOnEnd state tick v = (.ok (some state'), v')) :
      AtHead watching closeOnEnd w (passes ++ [passOf state tick v]) state' v'

/-- How a relay ends that is at the head of its loop: there are no more updates, or the next
iteration closes the stream or fails. -/
inductive EndsAt (watching closeOnEnd : Bool) (state : Relaying) (v : World) :
    List Tick → Except Halt Unit → World → Prop
  | drained : EndsAt watching closeOnEnd state v [] (.ok ()) v
  | closed {tick : Tick} {later : List Tick} {v' : World}
      (closes : relayOnce watching closeOnEnd state tick v = (.ok none, v')) :
      EndsAt watching closeOnEnd state v (tick :: later) (.ok ()) v'
  | failed {tick : Tick} {later : List Tick} {halt : Halt} {v' : World}
      (fails : relayOnce watching closeOnEnd state tick v = (.error halt, v')) :
      EndsAt watching closeOnEnd state v (tick :: later) (.error halt) v'

section Heads

variable {watching closeOnEnd : Bool} {w : World}

/-- Whatever was written down stays. -/
theorem AtHead.journal_grown {passes : List Pass} {state : Relaying} {v : World}
    (h : AtHead watching closeOnEnd w passes state v) :
    w.journal.toList <+: v.journal.toList := by
  induction h with
  | first => exact List.prefix_rfl
  | next before goesOn ih => exact ih.trans ⟨_, (journal_relayOnce goesOn).symm⟩

/-- At the head of its loop a relay has the rest of its updates before it. -/
theorem AtHead.relayTicks_eq {passes : List Pass} {state : Relaying} {v : World}
    (h : AtHead watching closeOnEnd w passes state v) (rest : List Tick) :
    relayTicks watching closeOnEnd (.start w) (passes.map Pass.tick ++ rest) w =
      relayTicks watching closeOnEnd state rest v := by
  induction h generalizing rest with
  | first => rfl
  | @next passes state state' v v' tick before goesOn ih =>
      rw [List.map_append, List.append_assoc, ih]
      change relayTicks watching closeOnEnd state (tick :: rest) v = _
      rw [relayTicks_cons, goesOn]

/-- Every relay comes to a last head, and ends there. -/
theorem AtHead.exists_last {passes : List Pass} {state : Relaying} {v : World}
    (h : AtHead watching closeOnEnd w passes state v) (ticks : List Tick) :
    ∃ more state' v' rest, ticks = more.map Pass.tick ++ rest ∧
      AtHead watching closeOnEnd w (passes ++ more) state' v' ∧
      EndsAt watching closeOnEnd state' v' rest (relayTicks watching closeOnEnd state ticks v).1
        (relayTicks watching closeOnEnd state ticks v).2 := by
  induction ticks generalizing passes state v with
  | nil => exact ⟨[], state, v, [], rfl, by rwa [List.append_nil], .drained⟩
  | cons tick rest ih =>
      rw [relayTicks_cons]
      rcases hiteration : relayOnce watching closeOnEnd state tick v with ⟨halt | _ | next, v'⟩
      · exact ⟨[], state, v, tick :: rest, rfl, by rwa [List.append_nil], .failed hiteration⟩
      · exact ⟨[], state, v, tick :: rest, rfl, by rwa [List.append_nil], .closed hiteration⟩
      · obtain ⟨more, state', v'', later, hrest, hhead, hends⟩ := ih (h.next hiteration)
        refine ⟨passOf state tick v :: more, state', v'', later, ?_, ?_, hends⟩
        · rw [hrest]
          rfl
        · rw [List.append_cons]
          exact hhead

theorem exists_last_head (watching closeOnEnd : Bool) (w : World) (ticks : List Tick) :
    ∃ passes state v rest, ticks = passes.map Pass.tick ++ rest ∧
      AtHead watching closeOnEnd w passes state v ∧
      EndsAt watching closeOnEnd state v rest
        (relayTicks watching closeOnEnd (.start w) ticks w).1
        (relayTicks watching closeOnEnd (.start w) ticks w).2 := by
  have hfirst : AtHead watching closeOnEnd w [] (.start w) w := .first
  exact hfirst.exists_last ticks

end Heads

/-- A whole relay is its loop and then the reading of how the command ended. -/
theorem relay_apply (watching closeOnEnd : Bool) (script : StreamScript) (w : World) :
    relay watching closeOnEnd script w =
      match relayTicks watching closeOnEnd (.start w) script.ticks w with
      | (.ok _, v) =>
        (match script.statusFault with
          | some fault => .error (.fault fault)
          | none => exitCode script.status, v)
      | (.error halt, v) => (.error halt, v) := by
  unfold relay
  rw [bind_of_ok (get_apply w), bind_apply, Relaying.start]
  rcases relayTicks watching closeOnEnd _ script.ticks w with ⟨halt | _, v⟩
  · rfl
  · dsimp only
    rw [bind_apply, unlessBroken_apply]
    cases script.statusFault with
    | some fault => rfl
    | none => exact ofExcept_apply _ v

/-- Only the loop of a relay does anything. -/
theorem relay_world (watching closeOnEnd : Bool) (script : StreamScript) (w : World) :
    (relay watching closeOnEnd script w).2 =
      (relayTicks watching closeOnEnd (.start w) script.ticks w).2 := by
  rw [relay_apply]
  rcases relayTicks watching closeOnEnd (.start w) script.ticks w with ⟨_ | _, v⟩ <;> rfl

end Session

end PodReach
