import PodReach.Proofs.Program.Quiet
import PodReach.Proofs.Session.Ending
import PodReach.Proofs.World.Conduct

/-!
# Sessions in turn

A session asks the cluster for nothing but its stream, and for that at most once. A session that has
a result opened its stream, and closing it was the last thing that it did. So when sessions are held
in turn, with nothing asked in between, the calls are those for their streams in the same order, and
the next stream is opened only after the one before it was closed.
-/

namespace PodReach

open Run World

namespace Session

/-! ## What a session asks -/

/-- The call for the stream of a session. -/
def streamCall (metadata : Metadata) (home : Yaml) (container : Container)
    (command : Option (List String)) (tty : Bool) : Call :=
  .openStream metadata.name ((Yaml.ofText? metadata.ns).orElse home) container.name command tty

/-- Between two worlds the stream of a session was asked for, and nothing else. -/
def StreamAsked (pod : Pod) (container : Container) (command : Option (List String))
    (w w' : World) : Prop :=
  ∃ v metadata tty, pod.metadata = some metadata ∧ Quiet w v ∧
    Quiet (v.called (streamCall metadata w.cluster.ns container command tty)) w'

section StreamAsked

variable {pod : Pod} {container : Container} {command : Option (List String)} {w w' w'' : World}

theorem StreamAsked.quiet (h : StreamAsked pod container command w w') (hquiet : Quiet w' w'') :
    StreamAsked pod container command w w'' := by
  obtain ⟨v, metadata, tty, hmetadata, hbefore, hafter⟩ := h
  exact ⟨v, metadata, tty, hmetadata, hbefore, hafter.trans hquiet⟩

theorem StreamAsked.calls (h : StreamAsked pod container command w w') :
    ∃ metadata tty, pod.metadata = some metadata ∧
      callsSince w w' = [streamCall metadata w.cluster.ns container command tty] := by
  obtain ⟨v, metadata, tty, hmetadata, hbefore, hafter⟩ := h
  refine ⟨metadata, tty, hmetadata, ?_⟩
  have hgrown : w.Grew v := hbefore.uncalled.grew
  rw [callsSince_quiet (hgrown.trans (grew_called v _)) hafter, callsSince_called hgrown rfl,
    hbefore.uncalled.callsSince_eq_nil, List.nil_append]

theorem StreamAsked.grew (h : StreamAsked pod container command w w') : w.Grew w' := by
  obtain ⟨v, metadata, tty, -, hbefore, hafter⟩ := h
  exact (hbefore.uncalled.grew.trans (grew_called v _)).trans hafter.uncalled.grew

theorem StreamAsked.continues (h : StreamAsked pod container command w w') : w.Continues w' := by
  obtain ⟨v, metadata, tty, -, hbefore, hafter⟩ := h
  refine (hbefore.continues.trans ?_).trans hafter.continues
  exact (isCall_openStream _ _ _ _).world v ▸
    (isCall_openStream metadata.name container.name command tty).continues v

/-- How a session that began in a world got on: it asked for its stream, or it has no result and
asked for nothing. -/
def Asks {α : Type} (pod : Pod) (container : Container) (command : Option (List String)) (w : World)
    (run : Except Halt α × World) : Prop :=
  (Quiet w run.2 ∧ ∃ halt, run.1 = .error halt) ∨ StreamAsked pod container command w run.2

section Asks

variable {α β : Type} {action : Run α} {next : α → Run β}

/-- What is quiet may come before the stream is asked for. -/
theorem asks_after (hbefore : Quiet w w') (hquiet : Keeps Quiet action)
    (hnext : ∀ a v, Quiet w v → action w' = (.ok a, v) → Asks pod container command w (next a v)) :
    Asks pod container command w ((action >>= next) w') := by
  have haction := hquiet w'
  rw [bind_apply]
  rcases hrun : action w' with ⟨halt | a, v⟩ <;> rw [hrun] at haction
  · exact Or.inl ⟨hbefore.trans haction, halt, rfl⟩
  · exact hnext a v (hbefore.trans haction) hrun

theorem asks_when {c : Prop} [Decidable c] {first : Run PUnit} {next : PUnit → Run β}
    (hbefore : Quiet w w') (hquiet : Keeps Quiet first)
    (hnext : ∀ v, Quiet w v → Asks pod container command w (next ⟨⟩ v)) :
    Asks pod container command w ((if c then first >>= next else next ⟨⟩) w') := by
  split
  · exact asks_after hbefore hquiet fun _ v hv _ => hnext v hv
  · exact hnext w' hbefore

/-- What is quiet may come once it was asked for. -/
theorem Asks.bind (h : Asks pod container command w (action w'))
    (hnext : ∀ a, Keeps Quiet (next a)) :
    Asks pod container command w ((action >>= next) w') := by
  rw [bind_apply]
  rcases hrun : action w' with ⟨halt | a, v⟩ <;> rw [hrun] at h
  · exact h.imp (fun hquiet => ⟨hquiet.1, halt, rfl⟩) id
  · rcases h with ⟨-, halt, hhalt⟩ | hasked
    · cases hhalt
    · exact Or.inr (hasked.quiet (hnext a v))

end Asks

theorem asks_openSession (pod : Pod) (container : Container) (command : Option (List String))
    (w : World) : Asks pod container command w (openSession pod container command w) := by
  unfold openSession
  refine asks_after (.refl w) (quiet_openFile logName) fun _ w₀ h₀ _ => ?_
  rw [bind_of_ok (get_apply w₀)]
  refine asks_when h₀ (quiet_warnUnlessInteractive container) fun w₁ h₁ => ?_
  refine asks_after h₁ (keeps_need _) fun metadata w₂ h₂ hmetadata => ?_
  rw [bind_of_ok (get_apply w₂), h₂.cluster]
  refine asks_after h₂ (quiet_info _) fun _ w₃ h₃ _ => ?_
  refine asks_after h₃ (quiet_line "[dim]" (by simp) (by decide)) fun _ w₄ h₄ _ => ?_
  refine Asks.bind (Or.inr ⟨w₄, metadata, wantsTerminal w₀.stdin container (command.getD []),
    (need_eq_ok hmetadata).1, h₄, ?_⟩) fun outcome => ?_
  · rw [attempt_apply, (isCall_openStream _ _ _ _).world w₄]
    exact Std.Refl.refl _
  · split
    · split
      · exact (quiet_log _ _).bind fun _ => keeps_throw _
      · exact keeps_throw _
    · exact keeps_throw _
    · exact keeps_pure _

/-- A session asks for nothing but its stream. -/
theorem asks_attach (pod : Pod) (container : Container) (command : Option (List String))
    (w : World) : Asks pod container command w (attach pod container command w) := by
  refine (asks_openSession pod container command w).bind fun opened => ?_
  refine (quiet_logOpened _ _).bind fun _ => (quiet_beginSession _ _).bind fun _ => ?_
  exact (quiet_runSession _ _ _).always (quiet_endSession _)

/-- A session that has a result closed its stream at last. -/
theorem closed_of_attach {code : Option Int}
    (h : attach pod container command w = (.ok code, w')) :
    ∃ entries, w'.journal.toList = w.journal.toList ++ entries ++ [.traffic .streamClosed] := by
  have hrun := h
  unfold attach at hrun
  obtain ⟨opened, v, hopened, -⟩ := bind_eq_ok hrun
  have hgrown : w.Grew v := by
    rcases asks_openSession pod container command w with ⟨-, halt, hhalt⟩ | hasked
    · rw [hopened] at hhalt
      cases hhalt
    · rw [hopened] at hasked
      exact hasked.grew
  have hsized : opened.tty = true → opened.script.sizeFault = none := by
    intro htty
    cases hfault : opened.script.sizeFault with
    | none => rfl
    | some fault =>
        obtain ⟨text, hattach⟩ := attach_of_unsized hopened htty hfault
        cases h.symm.trans hattach
  obtain ⟨u, hopen, hattach⟩ := attach_of_sized hopened hsized
  rw [h, always_of_ok (endSession_apply opened.tty _)] at hattach
  obtain ⟨entries, hentries⟩ := (hgrown.trans hopen).trans
    (grew_runSession opened.script opened.tty opened.label u)
  refine ⟨entries ++ if opened.tty then [.traffic .resizeUnwatched] else [], ?_⟩
  rw [(Prod.mk.inj hattach).2, journal_noted, ← hentries, endEntries]
  simp only [List.append_assoc]

end StreamAsked

/-! ## Sessions that are held -/

/-- A session for a command: what was run in which container, from which world, and what came of
it. -/
structure Held where
  pod : Pod
  container : Container
  words : List String
  before : World
  outcome : Except Halt (Option Int)
  after : World
  ran : attach pod container (some words) before = (outcome, after)

namespace Held

variable (s : Held)

/-- What a session asked the cluster. -/
def calls : List Call := callsSince s.before s.after

theorem asks : Asks s.pod s.container (some s.words) s.before (s.outcome, s.after) := by
  have h := asks_attach s.pod s.container (some s.words) s.before
  rwa [s.ran] at h

theorem grew : s.before.Grew s.after :=
  s.asks.elim (fun h => h.1.uncalled.grew) StreamAsked.grew

theorem continues : s.before.Continues s.after :=
  s.asks.elim (fun h => h.1.continues) StreamAsked.continues

/-- A session that did not ask for its stream has no result. -/
theorem calls_cases :
    (s.calls = [] ∧ ∃ halt, s.outcome = .error halt) ∨
      ∃ metadata tty, s.pod.metadata = some metadata ∧
        s.calls = [streamCall metadata s.before.cluster.ns s.container (some s.words) tty] :=
  s.asks.imp (fun h => ⟨h.1.uncalled.callsSince_eq_nil, h.2⟩) StreamAsked.calls

theorem length_calls : s.calls.length ≤ 1 := by
  rcases s.calls_cases with ⟨hcalls, -⟩ | ⟨metadata, tty, -, hcalls⟩ <;> rw [hcalls] <;> simp

end Held

/-! ## One after another -/

/-- In a journal, the stream that was opened last is closed before another one is opened. -/
def TakesTurns (entries : List Entry) : Prop :=
  ∀ earlier first between second later,
    entries = earlier ++ .call first :: (between ++ .call second :: later) →
    first.service? = some .openStream → second.service? = some .openStream →
    .traffic .streamClosed ∈ between

section TakesTurns

variable {entries later : List Entry}

theorem takesTurns_of_length (h : (entries.filterMap Entry.clusterCall?).length ≤ 1) :
    TakesTurns entries := by
  rintro earlier first between second later rfl hfirst hsecond
  simp [Entry.clusterCall?, hfirst, hsecond] at h
  omega

/-- What opens no stream may come first. -/
theorem TakesTurns.prepend (h : TakesTurns entries) {start : List Entry}
    (hstart : ∀ call, .call call ∈ start → call.service? ≠ some .openStream) :
    TakesTurns (start ++ entries) := by
  intro earlier first between second later hsplit hfirst hsecond
  rcases List.append_eq_append_iff.mp hsplit with ⟨start', -, hentries⟩ | ⟨rest, hstart', hentries⟩
  · exact h _ first between second later hentries hfirst hsecond
  · cases rest with
    | nil => exact h [] first between second later hentries.symm hfirst hsecond
    | cons entry rest =>
        obtain ⟨rfl, -⟩ := List.cons.inj hentries
        refine absurd hfirst (hstart first ?_)
        rw [hstart']
        exact List.mem_append_right _ List.mem_cons_self

/-- Streams may be opened again once the earlier ones are closed. -/
theorem TakesTurns.append_closed (h : TakesTurns entries) (hlater : TakesTurns later) :
    TakesTurns (entries ++ .traffic .streamClosed :: later) := by
  intro earlier first between second rest hsplit hfirst hsecond
  rcases List.append_eq_append_iff.mp hsplit with ⟨start, -, hclosed⟩ | ⟨open', hentries, hopen⟩
  · -- both streams are opened after the closing
    cases start with
    | nil => cases hclosed
    | cons entry start =>
        exact hlater start first between second rest (List.cons.inj hclosed).2 hfirst hsecond
  · cases open' with
    | nil => cases hopen
    | cons entry open' =>
        obtain ⟨rfl, htail⟩ := List.cons.inj hopen
        rcases List.append_eq_append_iff.mp htail with ⟨more, rfl, hmore⟩ | ⟨more, rfl, hmore⟩
        · -- both are opened before it
          cases more with
          | nil => cases hmore
          | cons entry more =>
              obtain ⟨rfl, -⟩ := List.cons.inj hmore
              exact h earlier first between second more hentries hfirst hsecond
        · -- it lies between them
          cases more with
          | nil => cases hmore
          | cons entry more =>
              obtain ⟨rfl, -⟩ := List.cons.inj hmore
              exact List.mem_append_right _ List.mem_cons_self

end TakesTurns

/-- Between two worlds these sessions were held, one after another, and apart from that nothing was
asked. -/
inductive InTurn : World → List Held → World → Prop
  /-- There is no further session. -/
  | done {w w' : World} (idle : Quiet w w') : InTurn w [] w'
  /-- A session comes next. -/
  | next {w w' : World} {rest : List Held} (s : Held) (idle : Quiet w s.before)
      (later : InTurn s.after rest w') : InTurn w (s :: rest) w'

namespace InTurn

variable {w w' : World} {sessions : List Held}

theorem grew (h : InTurn w sessions w') : w.Grew w' := by
  induction h with
  | done idle => exact idle.uncalled.grew
  | next s idle later ih => exact (idle.uncalled.grew.trans s.grew).trans ih

theorem calls_eq (h : InTurn w sessions w') : callsSince w w' = sessions.flatMap Held.calls := by
  induction h with
  | done idle => exact idle.uncalled.callsSince_eq_nil
  | @next w w' rest s idle later ih =>
      obtain ⟨entries, hentries⟩ := later.grew
      rw [callsSince_of_uncalled idle.uncalled (s.grew.trans later.grew), List.flatMap_cons, ← ih,
        callsSince_append s.grew hentries.symm, callsSince, callsSince,
        entriesSince_eq hentries.symm]
      rfl

/-- A session asks for its stream in the namespace of its pod, or in that of the client, which is
the same for all of them. -/
theorem streams (h : InTurn w sessions w') :
    ∀ s ∈ sessions, (s.calls = [] ∧ ∃ halt, s.outcome = .error halt) ∨
      ∃ metadata tty, s.pod.metadata = some metadata ∧
        s.calls = [streamCall metadata w.cluster.ns s.container (some s.words) tty] := by
  induction h with
  | done => simp
  | @next w w' rest s idle later ih =>
      have hbefore : s.before.cluster.ns = w.cluster.ns := idle.continues.ns
      have hafter : s.after.cluster.ns = w.cluster.ns := s.continues.ns.trans hbefore
      intro t ht
      rcases List.mem_cons.mp ht with rfl | ht
      · exact hbefore ▸ t.calls_cases
      · exact hafter ▸ ih t ht

/-- Sessions that are held in turn take turns with their streams, if only the last of them may be
without a result. -/
theorem takesTurns (h : InTurn w sessions w')
    (hok : ∀ s ∈ sessions.dropLast, ∃ code, s.outcome = .ok code) :
    TakesTurns (entriesSince w w') := by
  induction h with
  | done idle =>
      apply takesTurns_of_length
      have hcalls := idle.uncalled.callsSince_eq_nil
      rw [callsSince] at hcalls
      rw [hcalls]
      exact Nat.zero_le 1
  | @next w w' rest s idle later ih =>
      have hlength : (callsSince w s.after).length ≤ 1 := by
        rw [callsSince_of_uncalled idle.uncalled s.grew]
        exact s.length_calls
      have hgrown : w.Grew s.after := idle.uncalled.grew.trans s.grew
      cases rest with
      | nil =>
          apply takesTurns_of_length
          cases later with
          | done quiet =>
              rwa [← callsSince, callsSince_quiet hgrown quiet]
      | cons next rest =>
          obtain ⟨code, hcode⟩ := hok s (by simp)
          obtain ⟨entries, hclosed⟩ := closed_of_attach (s.ran.trans (by rw [hcode]))
          obtain ⟨following, hfollowing⟩ := later.grew
          obtain ⟨waiting, hwaiting⟩ := idle.uncalled.grew
          have hbefore : entriesSince w s.after =
              (waiting ++ entries) ++ [.traffic .streamClosed] := by
            apply entriesSince_eq
            rw [hclosed, ← hwaiting]
            simp only [List.append_assoc]
          rw [entriesSince_append hgrown hfollowing.symm, hbefore, List.append_assoc]
          refine TakesTurns.append_closed (takesTurns_of_length ?_) ?_
          · have hnone : [Entry.traffic .streamClosed].filterMap Entry.clusterCall? = [] := rfl
            rwa [callsSince, hbefore, List.filterMap_append, hnone, List.append_nil] at hlength
          · have hrest := ih fun t ht => hok t (by simp [ht])
            rwa [entriesSince_eq hfollowing.symm] at hrest

end InTurn

end Session

end PodReach
