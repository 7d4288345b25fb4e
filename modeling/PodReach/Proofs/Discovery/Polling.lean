import Mathlib.Algebra.BigOperators.Group.List.Basic
import Mathlib.Algebra.Ring.Rat
import Mathlib.Tactic.Ring
import PodReach.Discovery.Wait
import PodReach.Proofs.Number.Counting
import PodReach.Proofs.World.Steps

/-!
# Asking again and again

Both searches are made of rounds: a pause, a question, and a second pause if the answer settles
nothing. This module says what a round does to the world, how long a number of rounds takes, and
which answer each of them gets. What an answer settles is left to the searches.
-/

namespace PodReach

namespace Entry

/-- Whether an entry is a request to list pods. -/
def isListing : Entry → Bool
  | call (.listPods _ _) => true
  | _ => false

/-- The seconds of a pause. -/
def seconds : Entry → Rat
  | slept duration => duration.value?.getD 0
  | _ => 0

end Entry

namespace Discovery.Search

variable (s : Search) {w w' w'' : World} {m n : Nat} {t u : Rat}

/-- The seconds of one pause of a search. -/
def pauseSeconds : Rat :=
  s.interval.value?.getD 0

/-- Entries of a search that waits: so many questions, pauses of so many seconds in all, and
nothing else. -/
structure Polls (entries : List Entry) (questions : Nat) (seconds : Rat) : Prop where
  only : ∀ entry ∈ entries,
    entry = .slept s.interval ∨ entry = .call (.listPods s.ns s.labels)
  questions : entries.countP Entry.isListing = questions
  seconds : (entries.map Entry.seconds).sum = seconds

/-- Between two worlds a search asked so many questions, paused for so many seconds in all, and
did nothing else that shows. -/
def Took (questions : Nat) (seconds : Rat) (w w' : World) : Prop :=
  ∃ entries, w'.journal.toList = w.journal.toList ++ entries ∧ s.Polls entries questions seconds

namespace Took

variable {s}

theorem refl (w : World) : s.Took 0 0 w w :=
  ⟨[], by simp, by simp, by simp, by simp⟩

theorem trans (h : s.Took m t w w') (h' : s.Took n u w' w'') :
    s.Took (m + n) (t + u) w w'' := by
  obtain ⟨first, hfirst, honly, hquestions, hseconds⟩ := h
  obtain ⟨second, hsecond, honly', hquestions', hseconds'⟩ := h'
  refine ⟨first ++ second, ?_, ?_, ?_, ?_⟩
  · rw [hsecond, hfirst, List.append_assoc]
  · intro entry hentry
    rcases List.mem_append.mp hentry with hmem | hmem
    · exact honly entry hmem
    · exact honly' entry hmem
  · rw [List.countP_append, hquestions, hquestions']
  · rw [List.map_append, List.sum_append, hseconds, hseconds']

/-- A pause takes its time. -/
theorem pause (w : World) : s.Took 0 s.pauseSeconds w (w.paused s.interval) := by
  refine ⟨[.slept s.interval], ?_, by simp, rfl, ?_⟩
  · simp [World.paused]
  · simp [Entry.seconds, pauseSeconds]

/-- A question takes no time. -/
theorem question (h : w'.journal = w.journal.push (.call (.listPods s.ns s.labels))) :
    s.Took 1 0 w w' := by
  refine ⟨[.call (.listPods s.ns s.labels)], ?_, by simp, rfl, ?_⟩
  · simp [h]
  · simp [Entry.seconds]

end Took

/-! ## Worlds of a search -/

/-- The world in which a question has just been answered with pods. -/
def asked (w : World) : World :=
  (w.paused s.interval).listed s.ns s.labels

/-- The world after a round that settled nothing. -/
def rested (w : World) : World :=
  (s.asked w).paused s.interval

/-- The world after `n` rounds that settled nothing. -/
def after (w : World) (n : Nat) : World :=
  s.rested^[n] w

/-- The answer to the `k`-th question of a search, counted from one: pods or a fault. -/
def answer (w : World) (k : Nat) : Except Fault (List Pod) :=
  w.cluster.listAnswer s.ns s.labels (k - 1)

@[simp]
theorem after_zero (w : World) : s.after w 0 = w := rfl

theorem after_succ (w : World) (n : Nat) : s.after w (n + 1) = s.rested (s.after w n) :=
  Function.iterate_succ_apply' _ _ _

theorem after_rested (w : World) (n : Nat) : s.after (s.rested w) n = s.after w (n + 1) :=
  (Function.iterate_succ_apply _ _ _).symm

theorem took_asked (w : World) : s.Took 1 s.pauseSeconds w (s.asked w) := by
  have hquestion : s.Took 1 0 (w.paused s.interval) (s.asked w) := Took.question rfl
  have h := (Took.pause w).trans hquestion
  simpa using h

theorem took_rested (w : World) : s.Took 1 (2 * s.pauseSeconds) w (s.rested w) := by
  have h := (s.took_asked w).trans (Took.pause (s.asked w))
  rw [two_mul]
  exact h

/-- `n` rounds that settle nothing ask `n` questions and take two pauses each. -/
theorem took_after (w : World) (n : Nat) :
    s.Took n (2 * n * s.pauseSeconds) w (s.after w n) := by
  induction n with
  | zero => simpa using Took.refl (s := s) w
  | succ n ih =>
      have h := ih.trans (s.took_rested (s.after w n))
      rw [after_succ]
      convert h using 1
      push_cast
      ring

/-- Rounds that settle nothing only use up answers of the cluster. -/
theorem cluster_after (w : World) (n : Nat) :
    (s.after w n).cluster =
      { w.cluster with requests := w.cluster.requests + n, listed := w.cluster.listed + n } := by
  induction n with
  | zero => rfl
  | succ n ih =>
      rw [after_succ]
      change { (s.after w n).cluster with
        requests := (s.after w n).cluster.requests + 1
        listed := (s.after w n).cluster.listed + 1 } = _
      rw [ih]
      simp only [Nat.add_assoc]

/-- The next answer after `n` rounds is the answer to question `n + 1`. -/
theorem answer_after (w : World) (n : Nat) : s.answer (s.after w n) 1 = s.answer w (n + 1) := by
  unfold answer Cluster.listAnswer
  rw [cluster_after]
  simp

/-- A round that settles nothing uses up one answer. -/
theorem answer_rested (w : World) {k : Nat} (hk : 1 ≤ k) :
    s.answer (s.rested w) k = s.answer w (k + 1) := by
  obtain ⟨n, rfl⟩ : ∃ n, k = n + 1 := ⟨k - 1, by omega⟩
  rw [← answer_after, after_rested, answer_after]

/-- What is left of a budget after `n` rounds. -/
def left (budget : Double) (n : Nat) : Double :=
  (fun b => b.sub s.roundTime)^[n] budget

@[simp]
theorem left_zero (budget : Double) : s.left budget 0 = budget := rfl

theorem left_succ (budget : Double) (n : Nat) :
    s.left budget (n + 1) = (s.left budget n).sub s.roundTime :=
  Function.iterate_succ_apply' _ _ _

/-! ## One round -/

section Round

variable {α : Type} {s}

/-- What an answer settles, given what a list of pods settles: a fault settles everything. -/
def settledBy (judge : List Pod → Option (Except Halt α)) :
    Except Fault (List Pod) → Option (Except Halt α)
  | .error fault => some (.error (.fault fault))
  | .ok pods => judge pods

/-- The outcome of a round whose answer settles nothing, or the whole search. -/
def roundOutcome : Option (Except Halt α) → Except Halt (Option α)
  | none => .ok none
  | some outcome => outcome.map some

/-- A round that has a result got it from its answer. -/
theorem roundOutcome_eq_ok {verdict : Option (Except Halt α)} {a : α}
    (h : roundOutcome verdict = .ok (some a)) : verdict = some (.ok a) := by
  cases verdict with
  | none => cases h
  | some outcome =>
      cases outcome with
      | error halt => cases h
      | ok found =>
          cases h
          rfl

/-- A round pauses, asks once, and ends as the answer says. -/
theorem round_of_judge {body : List Pod → Run (Option α)}
    {judge : List Pod → Option (Except Halt α)} {w : World}
    (hbody : ∀ pods, body pods (s.asked w) = (roundOutcome (judge pods), s.asked w)) :
    let round := do
      Clock.pause s.interval
      let pods ← Cluster.listPods s.ns s.labels
      body pods
    ∃ w', round w = (roundOutcome (settledBy judge (s.answer w 1)), w') ∧
      s.Took 1 s.pauseSeconds w w' ∧
      (settledBy judge (s.answer w 1) = none → w' = s.asked w) := by
  intro round
  have hpause : round w =
      (Cluster.listPods s.ns s.labels >>= body) (w.paused s.interval) :=
    Run.bind_of_ok (Clock.pause_apply s.interval w)
  rw [hpause]
  cases hanswer : s.answer w 1 with
  | error fault =>
      obtain ⟨w', hlist, hjournal⟩ :=
        Cluster.listPods_of_error (w := w.paused s.interval) hanswer
      refine ⟨w', Run.bind_of_error hlist, ?_, nofun⟩
      have h := (Took.pause w).trans (Took.question hjournal)
      simpa using h
  | ok pods =>
      have hlist := Cluster.listPods_of_ok (w := w.paused s.interval) hanswer
      refine ⟨s.asked w, ?_, s.took_asked w, fun _ => rfl⟩
      rw [Run.bind_of_ok hlist]
      exact hbody pods

end Round

/-- Of the first `rounds` rounds there is a first one with a property, or none has it. -/
theorem exists_first_or_none (decisive : Nat → Prop) (rounds : Nat) :
    (∃ k, 1 ≤ k ∧ k ≤ rounds ∧ decisive k ∧ ∀ j, 1 ≤ j → j < k → ¬ decisive j) ∨
      ∀ k, 1 ≤ k → k ≤ rounds → ¬ decisive k := by
  classical
  by_cases hexists : ∃ k, (1 ≤ k ∧ k ≤ rounds) ∧ decisive k
  · obtain ⟨⟨hk, hle⟩, hdecisive⟩ := Nat.find_spec hexists
    refine Or.inl ⟨Nat.find hexists, hk, hle, hdecisive, ?_⟩
    intro j hj hlt hj'
    exact Nat.find_min hexists hlt ⟨⟨hj, by omega⟩, hj'⟩
  · exact Or.inr fun k hk hle hk' => hexists ⟨k, ⟨hk, hle⟩, hk'⟩

/-! ## Pauses of a second -/

section Usual

variable (ns : Yaml) (labels : String) (images : List String)

/-- A search with the usual pause of a second. -/
def usual : Search :=
  ⟨ns, labels, images, usualInterval⟩

theorem pauseSeconds_usual : (usual ns labels images).pauseSeconds = 1 := by
  rw [pauseSeconds, show (usual ns labels images).interval = 1 from rfl,
    Double.value?_ofNat 1 (by decide)]
  rfl

/-- Rounds that settle nothing and one that ends with its answer ask one question each, and all
but the last take two seconds. -/
theorem took_decided (htook : (usual ns labels images).Took 1
      (usual ns labels images).pauseSeconds ((usual ns labels images).after w n) w') :
    (usual ns labels images).Took (n + 1) (2 * (n + 1 : Nat) - 1) w w' := by
  have htime := ((usual ns labels images).took_after w n).trans htook
  rw [pauseSeconds_usual] at htime
  convert htime using 1
  push_cast
  ring

/-- Rounds that settle nothing take two seconds each. -/
theorem took_undecided (w : World) (n : Nat) :
    (usual ns labels images).Took n (2 * n) w ((usual ns labels images).after w n) := by
  have htime := (usual ns labels images).took_after w n
  rw [pauseSeconds_usual, mul_one] at htime
  exact htime

theorem roundTime_usual : (usual ns labels images).roundTime = 2 := by
  change usualInterval.mul 2 = 2
  decide +kernel

/-- A budget of a whole number of seconds is counted down exactly. -/
theorem value?_left {budget : Double} {b : Int} (hbudget : budget.value? = some (b : Rat))
    (hb : b.natAbs ≤ Double.wholeLimit) (n : Nat)
    (hleft : (b - 2 * n).natAbs ≤ Double.wholeLimit) :
    ((usual ns labels images).left budget n).value? = some ((b - 2 * n : Int) : Rat) := by
  induction n with
  | zero => simpa using hbudget
  | succ n ih =>
      have hprevious : (b - 2 * n).natAbs ≤ Double.wholeLimit := by omega
      have hnext : (b - 2 * (n + 1 : Nat) : Int) = b - 2 * n - 2 := by push_cast; ring
      rw [left_succ, roundTime_usual, hnext]
      exact Double.value?_sub_two (ih hprevious) (hnext ▸ hleft)

/-- The clock of a search advances by two seconds a round. -/
theorem value?_clock_after {start : Rat} (hclock : w.clock.value? = some start)
    (hstart : 0 ≤ start) (hearly : start ≤ (2 : Rat) ^ (46 : Int)) (n : Nat) :
    ((usual ns labels images).after w n).clock.value? = some (Double.ticked start (2 * n)) := by
  induction n with
  | zero => exact hclock
  | succ n ih =>
      rw [after_succ]
      exact Double.value?_add_one hstart hearly (Double.value?_add_one hstart hearly ih)

end Usual

end Discovery.Search

end PodReach
