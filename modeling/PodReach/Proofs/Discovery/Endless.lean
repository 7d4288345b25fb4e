import PodReach.Proofs.Discovery.NewestSearch
import PodReach.Proofs.Discovery.RunningSearch
import PodReach.Proofs.Number.Spending

/-!
# Which budgets end a search

When no answer decides anything, a search is ended by its budget alone. A budget that two seconds
can be taken off ends it after a bounded number of rounds, whatever number it is. A budget from
`2 ^ 54 + 8` on, infinity included, never ends either search: a round takes nothing off it. What is
no number ends the search for all pods of an image before its first question, because it is not at
least zero, and never ends the search for the newest pod, because it is not at most zero either.
-/

namespace PodReach

open Run

namespace Discovery.Search

open Double (spent leastUnspent)

/-- Between two worlds a search asked its questions and rested after each of them, and ended with an
error after so many rounds at most. -/
def Stops {α : Type} (s : Search) (bound : Nat) (w : World) (run : Except Halt α × World) : Prop :=
  ∃ n halt, n ≤ bound ∧ halt ≠ .endless ∧ run.1 = .error halt ∧ s.Took n (2 * n) w run.2

/-- For however many rounds a search is watched, it asks its question in each of them and is not
over after the last one. -/
def GoesOn {α : Type} (s : Search) (search : Nat → Run α) (w : World) : Prop :=
  ∀ n, (search n w).1 = .error .endless ∧ s.Took n (2 * n) w (search n w).2

/-- The rounds in which a budget is spent that can be spent. -/
def longest : Nat := 2 ^ 53 + 3

section Rounds

variable {s : Search} {grace start budget minWait : Double} {w : World}

theorem left_eq_spent (hround : s.roundTime = 2) (budget : Double) (n : Nat) :
    s.left budget n = spent budget n := by
  rw [left, spent, hround]

/-- A search that cannot take a round off its budget ends after the first one. -/
theorem afterOneRound_of_none {α : Type} {round : Run (Option α)}
    (h : round w = (.ok none, s.asked w)) (mistake : Mistake) :
    afterOneRound s round mistake w = (.error (.mistake mistake), s.after w 1) := by
  unfold afterOneRound
  rw [bind_of_ok h]
  dsimp only
  rw [bind_of_ok (Clock.pause_apply s.interval (s.asked w))]
  rfl

/-! ## The search for the newest pod -/

section Newest

variable (hround : s.roundTime = 2)
  (hopen : ∀ j, s.newestVerdict grace start (s.after w j) = none)

include hround hopen

/-- A budget that can be spent ends the search when it is spent. -/
theorem newestRunning_of_spendable (hnumber : budget ≠ .nan)
    (hspendable : (Double.finite leastUnspent).le budget = false) :
    ∃ n ≤ longest, ∀ rounds, n ≤ rounds →
      s.newestRunning grace start rounds budget w = (.error s.timeout, s.after w n) := by
  have hused : ∃ n, n ≤ Double.wholeLimit + 1 ∧ (s.left budget (n + 1)).le 0 = true := by
    refine ⟨Double.wholeLimit + 1, le_rfl, ?_⟩
    rw [left_eq_spent hround]
    exact Double.spent_le_zero hnumber hspendable
  classical
  obtain ⟨hbound, hlast⟩ := Nat.find_spec hused
  set n := Nat.find hused with hn
  have hfirst : ∀ j < n, (s.left budget (j + 1)).le 0 = false := by
    intro j hj
    rw [Bool.eq_false_iff]
    exact fun hle => Nat.find_min hused hj ⟨by omega, hle⟩
  refine ⟨n + 1, by unfold longest; unfold Double.wholeLimit at hbound; omega, ?_⟩
  intro rounds hrounds
  obtain ⟨more, rfl⟩ : ∃ more, rounds = more + 1 + n := ⟨rounds - (n + 1), by omega⟩
  rw [left_succ] at hlast
  rw [s.newestRunning_skip (more + 1) budget (fun j _ => hopen j) hfirst,
    s.newestRunning_of_open more _ (hopen n), if_pos hlast, after_succ]

/-- A budget of which something is left after every round never ends the search. -/
theorem newestRunning_of_unspent (hleft : ∀ n, (spent budget n).le 0 = false) (n : Nat) :
    s.newestRunning grace start n budget w = (.error .endless, s.after w n) := by
  have hskip := s.newestRunning_skip 0 budget (n := n) (fun j _ => hopen j) (fun j _ => by
    rw [left_eq_spent hround]
    exact hleft (j + 1))
  rw [Nat.zero_add] at hskip
  rw [hskip]
  rfl

end Newest

/-! ## The search for the pods of an image -/

section Running

variable (hround : s.roundTime = 2)
  (hopen : ∀ j, s.runningVerdict (s.left minWait j) (s.after w j) = none)

include hround hopen

/-- A budget that can be spent ends the search when it is spent, and what is no number ends it at
once. -/
theorem running_of_spendable (hspendable : (Double.finite leastUnspent).le budget = false) :
    ∃ n ≤ longest, ∀ rounds, n < rounds →
      s.running rounds budget minWait w = (.error s.timeout, s.after w n) := by
  have hused : ∃ n, n ≤ longest ∧ Double.le 0 (s.left budget n) = false := by
    by_cases hnumber : budget = .nan
    · exact ⟨0, Nat.zero_le _, by rw [hnumber]; rfl⟩
    · refine ⟨longest, le_rfl, ?_⟩
      rw [left_eq_spent hround, show longest = Double.wholeLimit + 2 + 1 from rfl,
        Double.spent_succ]
      exact Double.not_zero_le_sub_two (Double.spent_le_zero hnumber hspendable)
  classical
  obtain ⟨hbound, hlast⟩ := Nat.find_spec hused
  set n := Nat.find hused with hn
  have hfirst : ∀ j < n, Double.le 0 (s.left budget j) = true := by
    intro j hj
    rw [← Bool.not_eq_false]
    exact fun hle => Nat.find_min hused hj ⟨by omega, hle⟩
  refine ⟨n, hbound, ?_⟩
  intro rounds hrounds
  obtain ⟨more, rfl⟩ : ∃ more, rounds = more + 1 + n := ⟨rounds - (n + 1), by omega⟩
  rw [s.running_skip (more + 1) budget minWait hfirst (fun j _ => hopen j),
    s.running_of_negative more _ hlast]

/-- A budget that is never negative never ends the search. -/
theorem running_of_unspent (hleft : ∀ n, Double.le 0 (spent budget n) = true) (n : Nat) :
    s.running n budget minWait w = (.error .endless, s.after w n) := by
  have hskip := s.running_skip 0 budget minWait (n := n) (fun j _ => by
    rw [left_eq_spent hround]
    exact hleft j) (fun j _ => hopen j)
  rw [Nat.zero_add] at hskip
  rw [hskip]
  rfl

end Running

end Rounds

/-! ## Both searches with the usual pause -/

section Usual

variable (ns : Yaml) (labels : String) (images : List String) {w : World}

/-- With the usual minimum wait the 31st answer is the first one that is late, however many
follow. -/
theorem left_minWait_of_any (n : Nat) :
    ((usual ns labels images).left usualMinWait n).le 0 = decide (31 ≤ n + 1) := by
  rcases Nat.lt_or_ge n 30 with hfew | hmany
  · exact left_minWait ns labels images n (by unfold Double.wholeLimit; omega)
  · have hused : ∀ m, ((usual ns labels images).left usualMinWait (30 + m)).le 0 = true := by
      intro m
      induction m with
      | zero => exact left_minWait ns labels images 30 (by decide)
      | succ m ih =>
          rw [← Nat.add_assoc, left_succ, roundTime_usual]
          exact Double.sub_two_le_zero_of_le_zero ih
    obtain ⟨m, rfl⟩ : ∃ m, n = 30 + m := ⟨n - 30, by omega⟩
    rw [hused m, decide_eq_true (by omega)]

/-- A search that was stopped in the world after so many rounds. -/
theorem stops_after {α : Type} {run : Except Halt α × World} {bound n : Nat} {halt : Halt}
    (hn : n ≤ bound) (hrun : run = (.error halt, (usual ns labels images).after w n))
    (hhalt : halt ≠ .endless) :
    (usual ns labels images).Stops bound w run := by
  refine ⟨n, halt, hn, hhalt, congrArg Prod.fst hrun, ?_⟩
  rw [hrun]
  exact took_undecided ns labels images w n

theorem newestRunningPod_stops {maxWait : Yaml}
    (hopen : ∀ j, (usual ns labels images).newestVerdict usualGrace w.clock
      ((usual ns labels images).after w j) = none)
    (hspendable : ∀ budget, Budget.ofSetting maxWait = .seconds budget →
      budget ≠ .nan ∧ (Double.finite leastUnspent).le budget = false) :
    (usual ns labels images).Stops longest w
      (newestRunningPod (usual ns labels images) maxWait usualGrace w) := by
  unfold newestRunningPod
  rw [bind_of_ok (Clock.read_apply w)]
  have hone : 1 ≤ longest := by decide
  have hround : (usual ns labels images).newestRound usualGrace w.clock w =
      (.ok none, (usual ns labels images).asked w) := by
    obtain ⟨w', hrun, -, hworld⟩ := (usual ns labels images).newestRound_eq usualGrace w.clock w
    have hnone := hopen 0
    rw [after_zero] at hnone
    rw [hrun, hworld hnone, hnone]
    rfl
  cases hbudget : Budget.ofSetting maxWait with
  | seconds budget =>
      obtain ⟨hnumber, hspent⟩ := hspendable budget hbudget
      obtain ⟨n, hn, hrun⟩ := newestRunning_of_spendable (roundTime_usual ns labels images) hopen
        hnumber hspent
      exact stops_after ns labels images hn (hrun horizon (hn.trans (by decide))) nofun
  | vast negative =>
      have hrun := afterOneRound_of_none hround .overflow
      exact stops_after ns labels images hone hrun nofun
  | none =>
      have hrun := afterOneRound_of_none hround .wrongKind
      exact stops_after ns labels images hone hrun nofun

theorem runningPodsWithImage_stops {maxWait : Yaml}
    (hopen : ∀ j, (usual ns labels images).runningVerdict
      ((usual ns labels images).left usualMinWait j) ((usual ns labels images).after w j) = none)
    (hspendable : ∀ budget, Budget.ofSetting maxWait = .seconds budget →
      (Double.finite leastUnspent).le budget = false) :
    (usual ns labels images).Stops longest w
      (runningPodsWithImage (usual ns labels images) maxWait usualMinWait w) := by
  unfold runningPodsWithImage
  have hround : (usual ns labels images).runningRound usualMinWait w =
      (.ok none, (usual ns labels images).asked w) := by
    obtain ⟨w', hrun, -, hworld⟩ := (usual ns labels images).runningRound_eq usualMinWait w
    have hnone := hopen 0
    rw [after_zero, left_zero] at hnone
    rw [hrun, hworld hnone, hnone]
    rfl
  cases hbudget : Budget.ofSetting maxWait with
  | seconds budget =>
      obtain ⟨n, hn, hrun⟩ := running_of_spendable (roundTime_usual ns labels images) hopen
        (hspendable budget hbudget)
      exact stops_after ns labels images hn (hrun horizon (hn.trans_lt (by decide))) nofun
  | vast negative =>
      cases negative with
      | true =>
          have hrun : (throw (usual ns labels images).timeout : Run (List Pod)) w =
              (.error (usual ns labels images).timeout, w) := rfl
          exact stops_after ns labels images (Nat.zero_le _) hrun nofun
      | false =>
          have hrun := afterOneRound_of_none hround .overflow
          exact stops_after ns labels images (by decide : 1 ≤ longest) hrun nofun
  | none =>
      have hrun : (throw (.mistake .wrongKind) : Run (List Pod)) w =
          (.error (.mistake .wrongKind), w) := rfl
      exact stops_after ns labels images (Nat.zero_le _) hrun nofun

/-- **When polling ends.** Let no answer decide anything, for ever. A budget below `2 ^ 54 + 8` ends
either search with an error, after `2 ^ 53 + 3` questions at most, and so does a setting that is no
budget at all. A budget from there on, or an infinite one, never ends them. A budget that is no
number ends the search for all pods of an image, and never ends the search for the newest one. -/
theorem polling_law (maxWait : Yaml) {begun : Rat} (hclock : w.clock.value? = some begun)
    (hbegun : 0 ≤ begun) (hearly : begun ≤ 2 ^ 46) :
    let s := usual ns labels images
    ((∀ k, 1 ≤ k → ¬ s.NewestDecisive k (s.answer w k)) →
      ((∀ budget, Budget.ofSetting maxWait = .seconds budget →
          budget ≠ .nan ∧ Double.le (.finite (2 ^ 54 + 8)) budget = false) →
        s.Stops (2 ^ 53 + 3) w (newestRunningPod s maxWait usualGrace w)) ∧
      ∀ budget, Budget.ofSetting maxWait = .seconds budget →
        budget = .nan ∨ Double.le (.finite (2 ^ 54 + 8)) budget = true →
        s.GoesOn (fun rounds => s.newestRunning usualGrace w.clock rounds budget) w) ∧
    ((∀ k, 1 ≤ k → ¬ s.RunningDecisive k (s.answer w k)) →
      ((∀ budget, Budget.ofSetting maxWait = .seconds budget →
          Double.le (.finite (2 ^ 54 + 8)) budget = false) →
        s.Stops (2 ^ 53 + 3) w (runningPodsWithImage s maxWait usualMinWait w)) ∧
      ∀ budget, Budget.ofSetting maxWait = .seconds budget →
        Double.le (.finite (2 ^ 54 + 8)) budget = true →
        s.GoesOn (fun rounds => s.running rounds budget usualMinWait) w) := by
  intro s
  have hbound : (2 ^ 54 + 8 : Rat) = leastUnspent := by norm_num [leastUnspent]
  have hzpow : begun ≤ (2 : Rat) ^ (46 : Int) := by
    rw [show (46 : Int) = ((46 : Nat) : Int) from rfl, zpow_natCast]
    exact hearly
  have htime : s.roundTime = 2 := roundTime_usual ns labels images
  rw [hbound]
  constructor
  · intro hundecided
    have hopen (j : Nat) : s.newestVerdict usualGrace w.clock (s.after w j) = none :=
      newestVerdict_eq_none ns labels images hclock hbegun hzpow (hundecided (j + 1) (by omega))
    refine ⟨newestRunningPod_stops ns labels images hopen, fun budget _ hbudget n => ?_⟩
    have hleft : ∀ n, (spent budget n).le 0 = false := by
      rcases hbudget with rfl | hlarge
      · intro n
        rw [Double.spent_nan]
        rfl
      · exact fun n => (Double.pos_of_leastUnspent_le (Double.leastUnspent_le_spent hlarge n)).1
    dsimp only
    rw [newestRunning_of_unspent htime hopen hleft]
    exact ⟨rfl, took_undecided ns labels images w n⟩
  · intro hundecided
    have hopen (j : Nat) : s.runningVerdict (s.left usualMinWait j) (s.after w j) = none := by
      rw [runningVerdict, answer_after]
      exact judgeRunning_eq_none s (left_minWait_of_any ns labels images j)
        (hundecided (j + 1) (by omega))
    refine ⟨runningPodsWithImage_stops ns labels images hopen, fun budget _ hlarge n => ?_⟩
    have hleft (n : Nat) : Double.le 0 (spent budget n) = true :=
      (Double.pos_of_leastUnspent_le (Double.leastUnspent_le_spent hlarge n)).2
    dsimp only
    rw [running_of_unspent htime hopen hleft]
    exact ⟨rfl, took_undecided ns labels images w n⟩

/-! ## A pod that never gets ready -/

/-- A pod of the image that is waited for. -/
private def pending : Pod where
  metadata := some ⟨some "web-0", some "default", [], none, false⟩
  spec := some ⟨[⟨some "main", some "web:1", false, false⟩], 0⟩
  status := some ⟨some "Pending", none, [], []⟩

/-- A namespace that holds this pod for ever. -/
private def waiting : World :=
  { World.empty with
    cluster := { Cluster.empty with listAnswers := fun _ => .ok [pending] } }

private def search : Search :=
  usual (.text "default") "" ["web:1"]

private theorem newest_undecided (k : Nat) :
    ¬ search.NewestDecisive k (search.answer waiting k) := by
  rintro ⟨outcome, hdecides⟩
  rw [newestDecides_iff] at hdecides
  have hnone : ∀ late, search.judgeNewest late [pending] = none := by decide
  cases (hnone (decide (31 ≤ k))).symm.trans hdecides

private theorem running_undecided (k : Nat) :
    ¬ search.RunningDecisive k (search.answer waiting k) := by
  have hcollected : collect search.images [pending] = .ok .wait := by decide
  rintro ⟨outcome, hdecides⟩
  change search.RunningDecides k (.ok [pending]) outcome at hdecides
  cases hdecides with
  | critical nonempty collected => cases hcollected.symm.trans collected
  | ready nonempty collected enough => cases hcollected.symm.trans collected
  | incomplete incomplete collected => cases hcollected.symm.trans collected

/-- With three and a half seconds both searches stop. -/
theorem polling_law_short :
    (∀ k, 1 ≤ k → ¬ search.NewestDecisive k (search.answer waiting k)) ∧
      (∀ k, 1 ≤ k → ¬ search.RunningDecisive k (search.answer waiting k)) ∧
      search.Stops (2 ^ 53 + 3) waiting
        (newestRunningPod search (.number (.finite 3.5)) usualGrace waiting) ∧
      search.Stops (2 ^ 53 + 3) waiting
        (runningPodsWithImage search (.number (.finite 3.5)) usualMinWait waiting) := by
  have hnewest : ∀ k, 1 ≤ k → ¬ search.NewestDecisive k (search.answer waiting k) :=
    fun k _ => newest_undecided k
  have hrunning : ∀ k, 1 ≤ k → ¬ search.RunningDecisive k (search.answer waiting k) :=
    fun k _ => running_undecided k
  have hclock : waiting.clock.value? = some 0 := rfl
  obtain ⟨hlaw, hlaw'⟩ := polling_law (.text "default") "" ["web:1"] (.number (.finite 3.5))
    hclock le_rfl (by norm_num)
  refine ⟨hnewest, hrunning, (hlaw hnewest).1 ?_, (hlaw' hrunning).1 ?_⟩
  · rintro budget ⟨⟩
    exact ⟨nofun, by decide +kernel⟩
  · rintro budget ⟨⟩
    decide +kernel

/-- What is no number can be given for the longest wait. With it the search for the newest pod goes
on for ever, while the search for all pods of the image stops without a question. -/
theorem newestRunning_endless :
    Double.read? "nan" = some .nan ∧
      Budget.ofSetting (.number .nan) = .seconds .nan ∧
      (∀ k, ¬ search.NewestDecisive k (search.answer waiting k)) ∧
      search.GoesOn (fun rounds => search.newestRunning usualGrace waiting.clock rounds .nan)
        waiting ∧
      runningPodsWithImage search (.number .nan) usualMinWait waiting =
        (.error search.timeout, waiting) := by
  have hclock : waiting.clock.value? = some 0 := rfl
  have hopen (j : Nat) :
      search.newestVerdict usualGrace waiting.clock (search.after waiting j) = none :=
    newestVerdict_eq_none (.text "default") "" ["web:1"] hclock le_rfl (by norm_num)
      (newest_undecided (j + 1))
  have hnan (n : Nat) : (spent .nan n).le 0 = false := by
    rw [Double.spent_nan]
    rfl
  refine ⟨by decide +kernel, rfl, newest_undecided, fun n => ?_, rfl⟩
  have htime : search.roundTime = 2 := roundTime_usual (.text "default") "" ["web:1"]
  dsimp only
  rw [newestRunning_of_unspent htime hopen hnan]
  exact ⟨rfl, took_undecided (.text "default") "" ["web:1"] waiting n⟩

end Usual

end Discovery.Search

end PodReach
