import PodReach.Forward.Relay
import PodReach.Proofs.Outcome
import PodReach.Proofs.World.Journal

/-!
# Relaying is faithful

A relay passes on what it receives, piece by piece and in order, to the other end. At the end of
every round each end was sent exactly the bytes that were received from the other one. A relay ends
normally only when an end is closed or when it is told to stop before a round; when receiving or
sending fails, all that was received before has been sent.

What was received is read off the rounds: all that was readable in those the relay got through, and
in one more the pieces before the one that ends it.
-/

namespace PodReach

/-- The bytes that were received; an end that cannot be read yields none. -/
def Received.content : Received → List UInt8
  | bytes content => content
  | broken _ => []

/-- The bytes that an entry sends to an end of a relay. -/
def Entry.bytesTo (target : End) : Entry → List UInt8
  | .traffic (.toConnection bytes) => if target = .connection then bytes else []
  | .traffic (.toRemote bytes) => if target = .remote then bytes else []
  | _ => []

namespace Forward

open Run World

variable {round : Round} {rounds before after : List Round} {item : End × Received}
  {items early late : List (End × Received)} {ended : RelayEnd} {w w' : World}

/-! ## What a relay receives -/

/-- What an end yields goes on to the other end: it is not nothing, and it can be sent. -/
def Passes (round : Round) (item : End × Received) : Prop :=
  ∃ bytes, item.2 = .bytes bytes ∧ bytes ≠ [] ∧ round.sendFault (End.peer item.1) = none

/-- A relay gets through a round: it is not told to stop before it, and all that is readable goes
on. -/
structure GetsThrough (round : Round) : Prop where
  running : round.stopped = false
  passes : ∀ item ∈ round.readable, Passes round item

/-- What an end yields ends a relay: the end was closed or cannot be read, or what it yields cannot
be sent. -/
inductive Ends (round : Round) : End × Received → RelayEnd → Prop
  | closed (source : End) : Ends round (source, .bytes []) .closed
  | unread (source : End) (detail : String) :
      Ends round (source, .broken detail) (.broken detail)
  | unsent {source : End} {bytes : List UInt8} {detail : String} (nonempty : bytes ≠ [])
      (fault : round.sendFault (End.peer source) = some detail) :
      Ends round (source, .bytes bytes) (.broken detail)

/-- All that is readable in some rounds. -/
def readIn (rounds : List Round) : List (End × Received) :=
  rounds.flatMap (·.readable)

/-- The bytes that come from an end. -/
def bytesFrom (source : End) (items : List (End × Received)) : List UInt8 :=
  items.flatMap fun item => if item.1 = source then item.2.content else []

/-- Where a relay ends, with what it has passed on by then: it is told to stop before a round, or
something that is readable in a round ends it. -/
inductive EndsAt : List Round → List (End × Received) → RelayEnd → Prop
  | stopped {before after : List Round} {round : Round} (through : ∀ r ∈ before, GetsThrough r)
      (told : round.stopped = true) : EndsAt (before ++ round :: after) (readIn before) .stopped
  | within {before after : List Round} {round : Round} {early late : List (End × Received)}
      {item : End × Received} {ended : RelayEnd} (through : ∀ r ∈ before, GetsThrough r)
      (running : round.stopped = false) (readable : round.readable = early ++ item :: late)
      (passed : ∀ other ∈ early, Passes round other) (ends : Ends round item ended) :
      EndsAt (before ++ round :: after) (readIn before ++ early) ended

/-- The round after the last one that is scripted: the connection is closed. -/
def closing : Round where
  stopped := false
  readable := [(.connection, .bytes [])]
  sendFault := fun _ => none

/-! ## What a relay sends -/

/-- The entry that passes on what an end yields. -/
def transfer (item : End × Received) : Entry :=
  match item.1 with
  | .connection => .traffic (.toRemote item.2.content)
  | .remote => .traffic (.toConnection item.2.content)

theorem bytesTo_transfer (target : End) (item : End × Received) :
    (transfer item).bytesTo target = if item.1 = End.peer target then item.2.content else [] := by
  obtain ⟨source, received⟩ := item
  cases source <;> cases target <;> rfl

/-- What was received is passed on between two worlds: each piece is sent once, in order, nothing
else happens, and to each end go exactly the bytes from the other one. -/
structure PassedOn (items : List (End × Received)) (w w' : World) : Prop where
  written : w' = w.noted (items.map transfer)
  exact : ∀ target, (entriesSince w w').flatMap (Entry.bytesTo target) =
    bytesFrom (End.peer target) items

theorem passedOn_noted (items : List (End × Received)) (w : World) :
    PassedOn items w (w.noted (items.map transfer)) where
  written := rfl
  exact target := by
    rw [entriesSince_eq (journal_noted w _), List.flatMap_map]
    exact congrArg items.flatMap (funext fun item => bytesTo_transfer target item)

/-! ## One round -/

theorem sendTo_apply (source : End) (bytes : List UInt8) (w : World) :
    sendTo (End.peer source) bytes w = (.ok (), w.noted [transfer (source, .bytes bytes)]) := by
  cases source <;> exact record_apply _ w

/-- Pieces that go on are sent, one after the other. -/
theorem relayRound_append (h : ∀ item ∈ early, Passes round item) (late : List (End × Received))
    (w : World) :
    relayRound round.sendFault (early ++ late) w =
      relayRound round.sendFault late (w.noted (early.map transfer)) := by
  induction early generalizing w with
  | nil => simp
  | cons first early ih =>
      obtain ⟨⟨bytes, hbytes, hsome, hsent⟩, hrest⟩ := List.forall_mem_cons.mp h
      obtain ⟨source, received⟩ := first
      obtain rfl : received = .bytes bytes := hbytes
      have hnonempty : bytes.isEmpty = false := List.isEmpty_eq_false_iff.mpr hsome
      have hfirst : relayRound round.sendFault ((source, .bytes bytes) :: (early ++ late)) =
          sendTo (End.peer source) bytes >>= fun _ =>
            relayRound round.sendFault (early ++ late) := by
        simp [relayRound, hnonempty, hsent]
      rw [List.cons_append, hfirst, bind_of_ok (sendTo_apply source bytes w), ih hrest,
        noted_noted]
      rfl

/-- Nothing is sent after what ends a relay. -/
theorem relayRound_of_ends (h : Ends round item ended) (late : List (End × Received))
    (w : World) : relayRound round.sendFault (item :: late) w = (.ok (some ended), w) := by
  cases h with
  | closed source => rfl
  | unread source detail => rfl
  | unsent hsome hfault =>
      have hnonempty := List.isEmpty_eq_false_iff.mpr hsome
      simp only [relayRound, hnonempty, hfault]
      rfl

/-- What does not go on ends the relay. -/
theorem exists_ends (h : ¬ Passes round item) : ∃ ended, Ends round item ended := by
  obtain ⟨source, received⟩ := item
  cases received with
  | broken detail => exact ⟨_, .unread source detail⟩
  | bytes bytes =>
      by_cases hsome : bytes = []
      · subst hsome
        exact ⟨_, .closed source⟩
      · cases hfault : round.sendFault (End.peer source) with
        | none => exact absurd ⟨bytes, rfl, hsome, hfault⟩ h
        | some detail => exact ⟨_, .unsent hsome hfault⟩

/-! ## Round after round -/

/-- A relay that gets through a round goes on with the next one. -/
theorem relayRounds_of_getsThrough (h : GetsThrough round) (rest : List Round) (w : World) :
    relayRounds (round :: rest) w =
      relayRounds rest (w.noted (round.readable.map transfer)) := by
  have hround : relayRound round.sendFault round.readable w =
      (.ok none, w.noted (round.readable.map transfer)) := by
    have happend := relayRound_append h.passes [] w
    rw [List.append_nil] at happend
    exact happend
  simp only [relayRounds, h.running, Bool.false_eq_true, if_false]
  rw [bind_of_ok hround]

/-- A relay ends in a round in which something ends it. -/
theorem relayRounds_of_ends (hrunning : round.stopped = false)
    (hreadable : round.readable = early ++ item :: late)
    (hpassed : ∀ other ∈ early, Passes round other) (h : Ends round item ended)
    (rest : List Round) (w : World) :
    relayRounds (round :: rest) w = (.ok ended, w.noted (early.map transfer)) := by
  have hround : relayRound round.sendFault round.readable w =
      (.ok (some ended), w.noted (early.map transfer)) := by
    rw [hreadable, relayRound_append hpassed, relayRound_of_ends h]
  simp only [relayRounds, hrunning, Bool.false_eq_true, if_false]
  rw [bind_of_ok hround]
  rfl

/-- Rounds that a relay gets through only pass on what is readable. -/
theorem relayRounds_append (h : ∀ r ∈ before, GetsThrough r) (after : List Round) (w : World) :
    relayRounds (before ++ after) w =
      relayRounds after (w.noted ((readIn before).map transfer)) := by
  induction before generalizing w with
  | nil => simp [readIn]
  | cons first before ih =>
      obtain ⟨hfirst, hrest⟩ := List.forall_mem_cons.mp h
      rw [List.cons_append, relayRounds_of_getsThrough hfirst, ih hrest, noted_noted,
        ← List.map_append]
      rfl

/-- The end of a script stands for the close of the connection. -/
theorem relayRounds_append_closing (rounds : List Round) :
    relayRounds (rounds ++ [closing]) = relayRounds rounds := by
  induction rounds with
  | nil => rfl
  | cons round rounds ih => simp only [List.cons_append, relayRounds, ih]

/-- A relay that ends somewhere has passed on what it received by then. -/
theorem EndsAt.relayRounds_eq (h : EndsAt rounds items ended) (w : World) :
    relayRounds rounds w = (.ok ended, w.noted (items.map transfer)) := by
  cases h with
  | stopped through told =>
      rw [relayRounds_append through]
      simp only [relayRounds, told, if_true]
      rfl
  | within through running readable passed ends =>
      rw [relayRounds_append through, relayRounds_of_ends running readable passed ends,
        noted_noted, ← List.map_append]

/-- A relay that does not get through all rounds ends in one of them. -/
theorem exists_endsAt (hround : round ∈ rounds) (hnot : ¬ GetsThrough round) :
    ∃ items ended, EndsAt rounds items ended := by
  rcases Outcome.all_or_first GetsThrough rounds with
    hall | ⟨before, first, after, rfl, hbefore, hfirst⟩
  · exact absurd (hall round hround) hnot
  · cases hstopped : first.stopped with
    | true => exact ⟨_, _, .stopped hbefore hstopped⟩
    | false =>
        rcases Outcome.all_or_first (Passes first) first.readable with
          hpasses | ⟨early, item, late, hreadable, hearly, hitem⟩
        · exact absurd ⟨hstopped, hpasses⟩ hfirst
        · obtain ⟨ended, hends⟩ := exists_ends hitem
          exact ⟨_, _, .within hbefore hstopped hreadable hearly hends⟩

/-- Nothing comes from a connection that is closed. -/
theorem not_getsThrough_closing : ¬ GetsThrough closing := by
  intro h
  obtain ⟨bytes, hbytes, hnonempty, -⟩ := h.passes _ List.mem_cons_self
  cases hbytes
  exact hnonempty rfl

/-- After every number of rounds that a relay gets through, what was received in them has been
passed on, and the relay goes on from there. It always ends: normally where an end is closed or
where it is told to stop, otherwise where something cannot be received or sent, and what it
received before that has been passed on. -/
theorem relayRounds_law (rounds : List Round) (w : World) :
    (∀ before after, rounds = before ++ after → (∀ round ∈ before, GetsThrough round) →
      ∃ w', PassedOn (readIn before) w w' ∧ relayRounds rounds w = relayRounds after w') ∧
    ∃ items ended w', EndsAt (rounds ++ [closing]) items ended ∧ PassedOn items w w' ∧
      relayRounds rounds w = (.ok ended, w') := by
  constructor
  · rintro before after rfl hthrough
    exact ⟨_, passedOn_noted (readIn before) w, relayRounds_append hthrough after w⟩
  · have hclosing : closing ∈ rounds ++ [closing] := List.mem_append_right _ List.mem_cons_self
    obtain ⟨items, ended, h⟩ := exists_endsAt hclosing not_getsThrough_closing
    refine ⟨items, ended, _, h, passedOn_noted items w, ?_⟩
    rw [← relayRounds_append_closing]
    exact h.relayRounds_eq w

/-- Both ends are readable in a round, and only the first piece can be sent. -/
example (w : World) :
    relayRounds [⟨false, [(.remote, .bytes [1]), (.connection, .bytes [2, 3])], fun _ => none⟩,
      ⟨false, [(.connection, .bytes [4]), (.remote, .bytes [5])],
        fun target => if target = .connection then some "reset" else none⟩] w =
      (.ok (.broken "reset"), w.noted [.traffic (.toConnection [1]), .traffic (.toRemote [2, 3]),
        .traffic (.toRemote [4])]) := by
  simp [relayRounds, relayRound, sendTo, End.peer, noted]
  rfl

end Forward
end PodReach
