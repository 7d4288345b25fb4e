import Mathlib.Algebra.Order.Floor.Semiring
import Mathlib.Data.Rat.Floor
import PodReach.Proofs.Discovery.Newest
import PodReach.Proofs.Discovery.Polling

/-!
# The search for the newest pod, run to its end

The search ends with the first answer that decides it, or when the budget is used up. A round
takes two seconds off the budget and two pauses of a second each, and the clock that the grace
is measured with is read between them: before the 31st answer 61 seconds have passed, before the
30th only 59.
-/

namespace PodReach.Discovery.Search

variable (s : Search) {grace start : Double} {w : World}

/-! ## What an answer settles -/

/-- What a list of pods settles: the newest pod decides if it is running or will not recover,
and its absence does once it is late. -/
def judgeNewest (late : Bool) (pods : List Pod) : Option (Except Halt Pod) :=
  match newest s.images pods with
  | .error halt => some (.error halt)
  | .ok none => if late then some (.error s.noMatch) else none
  | .ok (some pod) =>
    match pod.status? with
    | none => some (.error (.mistake .noSuchPart))
    | some status =>
      if status == "Running" then some (.ok pod)
      else if Status.isCritical status then
        some (.error (.failed (.criticalPod pod.name? status)))
      else none

/-- Whether the grace is over when the next answer is there. -/
def graceOver (grace start : Double) (w : World) : Bool :=
  grace.lt ((s.asked w).clock.sub start)

/-- What the next answer settles. -/
def newestVerdict (grace start : Double) (w : World) : Option (Except Halt Pod) :=
  settledBy (s.judgeNewest (s.graceOver grace start w)) (s.answer w 1)

/-- A round of the search ends as its answer says. -/
theorem newestRound_eq (grace start : Double) (w : World) :
    ∃ w', s.newestRound grace start w = (roundOutcome (s.newestVerdict grace start w), w') ∧
      s.Took 1 s.pauseSeconds w w' ∧ (s.newestVerdict grace start w = none → w' = s.asked w) := by
  apply round_of_judge
  intro pods
  unfold judgeNewest
  cases hnewest : newest s.images pods with
  | error halt => exact Run.bind_of_error (Run.ofExcept_apply _ _)
  | ok found =>
      rw [Run.bind_of_ok (Run.ofExcept_apply _ _)]
      cases found with
      | none =>
          change (if s.graceOver grace start w then throw s.noMatch else pure none :
            Run (Option Pod)) (s.asked w) = _
          cases hlate : s.graceOver grace start w <;> rfl
      | some pod =>
          dsimp only
          cases hstatus : pod.status? with
          | none => exact Run.bind_of_error (Run.need_none _)
          | some status =>
              rw [Run.bind_of_ok (Run.need_some _ _)]
              dsimp only
              split_ifs <;> rfl

/-! ## Runs -/

/-- An answer that settles something ends the run with it. -/
theorem newestRunning_of_verdict {outcome : Except Halt Pod} (rounds : Nat) (budget : Double)
    (h : s.newestVerdict grace start w = some outcome) :
    ∃ w', s.newestRunning grace start (rounds + 1) budget w = (outcome, w') ∧
      s.Took 1 s.pauseSeconds w w' := by
  obtain ⟨w', hround, htook, -⟩ := s.newestRound_eq grace start w
  refine ⟨w', ?_, htook⟩
  rw [h] at hround
  unfold newestRunning
  cases outcome with
  | error halt => exact Run.bind_of_error hround
  | ok pod => exact Run.bind_of_ok hround

/-- An answer that settles nothing takes a round off the budget. -/
theorem newestRunning_of_open (rounds : Nat) (budget : Double)
    (h : s.newestVerdict grace start w = none) :
    s.newestRunning grace start (rounds + 1) budget w =
      if (budget.sub s.roundTime).le 0 then (.error s.timeout, s.rested w)
      else s.newestRunning grace start rounds (budget.sub s.roundTime) (s.rested w) := by
  obtain ⟨w', hround, -, hworld⟩ := s.newestRound_eq grace start w
  rw [h] at hround
  obtain rfl := hworld h
  conv_lhs => unfold newestRunning
  rw [Run.bind_of_ok hround]
  dsimp only
  rw [Run.bind_of_ok (Clock.pause_apply s.interval (s.asked w))]
  split_ifs <;> rfl

/-- Answers that settle nothing are passed over as long as the budget lasts. -/
theorem newestRunning_skip {n : Nat} (rounds : Nat) (budget : Double)
    (hopen : ∀ j < n, s.newestVerdict grace start (s.after w j) = none)
    (hlasts : ∀ j < n, (s.left budget (j + 1)).le 0 = false) :
    s.newestRunning grace start (rounds + n) budget w =
      s.newestRunning grace start rounds (s.left budget n) (s.after w n) := by
  induction n generalizing rounds with
  | zero => rfl
  | succ n ih =>
      have hbefore := ih (rounds + 1) (fun j hj => hopen j (by omega))
        (fun j hj => hlasts j (by omega))
      rw [show rounds + (n + 1) = rounds + 1 + n by omega, hbefore,
        s.newestRunning_of_open rounds _ (hopen n (by omega)), ← s.left_succ,
        hlasts n (by omega), s.after_succ]
      rfl

/-! ## The law of the usual search -/

/-- What an answer decides when it is the `k`-th of a search for the newest pod. -/
inductive NewestDecides (k : Nat) : Except Fault (List Pod) → Except Halt Pod → Prop
  /-- A fault ends the search. -/
  | refused {fault : Fault} : NewestDecides k (.error fault) (.error (.fault fault))
  /-- The newest pod runs. -/
  | running {pods : List Pod} {pod : Pod} (complete : ∀ p ∈ pods, p.Complete)
      (newest : pod.IsNewest s.images pods) (status : pod.status? = some "Running") :
      NewestDecides k (.ok pods) (.ok pod)
  /-- The newest pod will not recover. -/
  | critical {pods : List Pod} {pod : Pod} {status : String} (complete : ∀ p ∈ pods, p.Complete)
      (newest : pod.IsNewest s.images pods) (status_eq : pod.status? = some status)
      (isCritical : Status.isCritical status = true) :
      NewestDecides k (.ok pods) (.error (.failed (.criticalPod pod.name? status)))
  /-- There is no pod, and it is late. -/
  | absent {pods : List Pod} (complete : ∀ p ∈ pods, p.Complete)
      (none : ∀ pod ∈ pods, ¬ pod.Passes s.images) (late : 31 ≤ k) :
      NewestDecides k (.ok pods) (.error s.noMatch)
  /-- A list with a pod of which a part is missing decides as far as it can be read. -/
  | incomplete {pods : List Pod} {outcome : Except Halt Pod}
      (incomplete : ¬ ∀ p ∈ pods, p.Complete)
      (judged : s.judgeNewest (decide (31 ≤ k)) pods = some outcome) :
      NewestDecides k (.ok pods) outcome

/-- Whether an answer decides anything when it is the `k`-th. -/
def NewestDecisive (k : Nat) (answer : Except Fault (List Pod)) : Prop :=
  ∃ outcome, s.NewestDecides k answer outcome

/-- A pod that runs is not beyond recovery. -/
theorem not_isCritical_running : Status.isCritical "Running" = false := by
  decide

/-- The search decides as the relation says. -/
theorem newestDecides_iff {k : Nat} {answer : Except Fault (List Pod)}
    {outcome : Except Halt Pod} :
    s.NewestDecides k answer outcome ↔
      settledBy (s.judgeNewest (decide (31 ≤ k))) answer = some outcome := by
  constructor
  · rintro (_ | ⟨complete, newest, status⟩ | ⟨complete, newest, status, isCritical⟩ |
      ⟨complete, none, late⟩ | ⟨-, judged⟩)
    · rfl
    · have hscan := (newest_eq_some_iff s.images (Pod.forall_declared complete)).mpr newest
      simp [settledBy, judgeNewest, hscan, status]
    · have hscan := (newest_eq_some_iff s.images (Pod.forall_declared complete)).mpr newest
      have hrunning : ∀ status, Status.isCritical status = true → status ≠ "Running" := by
        rintro status hcritical rfl
        rw [not_isCritical_running] at hcritical
        cases hcritical
      simp [settledBy, judgeNewest, hscan, status, isCritical, hrunning _ isCritical]
    · have hscan := (newest_eq_none_iff s.images (Pod.forall_declared complete)).mpr none
      simp [settledBy, judgeNewest, hscan, late]
    · exact judged
  · intro hsettled
    cases answer with
    | error fault =>
        cases hsettled
        exact .refused
    | ok pods =>
        change s.judgeNewest (decide (31 ≤ k)) pods = some outcome at hsettled
        by_cases complete : ∀ p ∈ pods, p.Complete
        · rcases newest_cases s.images (Pod.forall_declared complete) with
            ⟨pod, hscan, hnewest⟩ | ⟨hscan, hnone⟩
          · obtain ⟨status, hstatus⟩ := (complete pod hnewest.mem).status?_isSome
            simp only [judgeNewest, hscan, hstatus] at hsettled
            split_ifs at hsettled with hrunning hcritical
            · cases hsettled
              exact .running complete hnewest (by rw [hstatus, beq_iff_eq.mp hrunning])
            · cases hsettled
              exact .critical complete hnewest hstatus hcritical
          · simp only [judgeNewest, hscan] at hsettled
            split_ifs at hsettled with hlate
            cases hsettled
            exact .absent complete hnone (of_decide_eq_true hlate)
        · exact .incomplete complete hsettled

/-- That there is no pod is decided by the 31st answer at the earliest. -/
theorem late_of_noMatchingPod {k : Nat} {answer : Except Fault (List Pod)} {terms ns : String}
    (h : s.NewestDecides k answer (.error (.failed (.noMatchingPod terms ns)))) : 31 ≤ k := by
  rw [newestDecides_iff] at h
  cases answer with
  | error fault => cases h
  | ok pods =>
      by_contra hearly
      simp only [settledBy, judgeNewest, decide_eq_false hearly] at h
      cases hscan : newest s.images pods with
      | error halt =>
          rw [hscan] at h
          cases h
          cases newestFrom_error s.images hscan
      | ok found =>
          rw [hscan] at h
          cases found with
          | none => cases h
          | some pod =>
              cases hstatus : pod.status? with
              | none =>
                  simp only [hstatus] at h
                  cases h
              | some status =>
                  simp only [hstatus] at h
                  split_ifs at h <;> cases h

section Law

variable (ns : Yaml) (labels : String) (images : List String)

/-- In a search with the usual pause and grace, what an answer settles depends on its number
alone. -/
theorem newestVerdict_after {begun : Rat} (hclock : w.clock.value? = some begun)
    (hbegun : 0 ≤ begun) (hearly : begun ≤ (2 : Rat) ^ (46 : Int)) (n : Nat) :
    (usual ns labels images).newestVerdict usualGrace w.clock
        ((usual ns labels images).after w n) =
      settledBy ((usual ns labels images).judgeNewest (decide (31 ≤ n + 1)))
        ((usual ns labels images).answer w (n + 1)) := by
  have hnow := Double.value?_add_one hbegun hearly
    (value?_clock_after ns labels images hclock hbegun hearly n)
  have hgrace : (usual ns labels images).graceOver usualGrace w.clock
      ((usual ns labels images).after w n) = decide (31 ≤ n + 1) := by
    have hminute := Double.minute_lt_elapsed hbegun hearly hnow hclock (by omega)
    have hround : decide (61 ≤ 2 * n + 1) = decide (31 ≤ n + 1) := by
      simp only [decide_eq_decide]
      omega
    exact hminute.trans hround
  rw [newestVerdict, hgrace, answer_after]

/-- An answer that does not decide settles nothing. -/
theorem newestVerdict_eq_none {begun : Rat} (hclock : w.clock.value? = some begun)
    (hbegun : 0 ≤ begun) (hearly : begun ≤ (2 : Rat) ^ (46 : Int)) {n : Nat}
    (hopen : ¬ (usual ns labels images).NewestDecisive (n + 1)
      ((usual ns labels images).answer w (n + 1))) :
    (usual ns labels images).newestVerdict usualGrace w.clock
      ((usual ns labels images).after w n) = none := by
  rw [newestVerdict_after ns labels images hclock hbegun hearly, Option.eq_none_iff_forall_ne_some]
  intro outcome hsettled
  exact hopen ⟨outcome, (newestDecides_iff _).mpr hsettled⟩

/-- The rounds that a budget of whole seconds pays for: at least one, and a last one that uses
up what is left. -/
def newestRounds (b : Int) : Nat :=
  max 1 ⌈(b : Rat) / 2⌉₊

theorem le_newestRounds (b : Int) : b ≤ 2 * (newestRounds b : Int) := by
  have hceil : (b : Rat) / 2 ≤ (newestRounds b : Rat) := by
    unfold newestRounds
    push_cast
    exact le_max_of_le_right (Nat.le_ceil _)
  have hdouble : (b : Rat) ≤ 2 * (newestRounds b : Rat) := by linarith
  exact_mod_cast hdouble

theorem lt_of_lt_newestRounds {b : Int} {n : Nat} (hn : 1 ≤ n) (hlt : n < newestRounds b) :
    2 * (n : Int) < b := by
  unfold newestRounds at hlt
  have hceil : n < ⌈(b : Rat) / 2⌉₊ := by omega
  have hhalf : (n : Rat) < (b : Rat) / 2 := Nat.lt_ceil.mp hceil
  have hdouble : 2 * (n : Rat) < (b : Rat) := by linarith
  exact_mod_cast hdouble

section Budget

variable {budget : Double} {b : Int} (hbudget : budget.value? = some (b : Rat))
  (hsmall : b.natAbs ≤ Double.wholeLimit)

include hbudget hsmall

/-- Before the last round something of the budget is left. -/
theorem left_pos {n : Nat} (hn : 1 ≤ n) (hlt : n < newestRounds b) :
    ((usual ns labels images).left budget n).le 0 = false := by
  have hpos := lt_of_lt_newestRounds hn hlt
  have hvalue := value?_left ns labels images hbudget hsmall n (by omega)
  rw [Double.le_of_value? hvalue (Double.value?_ofNat 0 (by decide))]
  have hrat : ¬ ((b - 2 * n : Int) : Rat) ≤ ((0 : Nat) : Rat) := by
    exact_mod_cast (by omega : ¬ b - 2 * (n : Int) ≤ 0)
  exact decide_eq_false hrat

/-- The last round uses up the budget. -/
theorem left_newestRounds :
    ((usual ns labels images).left budget (newestRounds b)).le 0 = true := by
  have hused := le_newestRounds b
  rcases Nat.lt_or_ge 1 (newestRounds b) with hmany | hone
  · have hpos := lt_of_lt_newestRounds (b := b) (n := newestRounds b - 1) (by omega) (by omega)
    have hvalue := value?_left ns labels images hbudget hsmall (newestRounds b) (by omega)
    rw [Double.le_of_value? hvalue (Double.value?_ofNat 0 (by decide))]
    have hrat : ((b - 2 * newestRounds b : Int) : Rat) ≤ ((0 : Nat) : Rat) := by
      exact_mod_cast (by omega : b - 2 * (newestRounds b : Int) ≤ 0)
    exact decide_eq_true hrat
  · have hround : newestRounds b = 1 := le_antisymm hone (le_max_left _ _)
    rw [hround] at hused ⊢
    rw [left_succ, left_zero, roundTime_usual]
    exact Double.sub_two_le_zero hbudget (by omega) hsmall

omit hbudget in
/-- A search can be watched for as many rounds as it makes. -/
theorem newestRounds_lt_horizon : newestRounds b < horizon := by
  by_contra hmany
  have hpos := lt_of_lt_newestRounds (b := b) (n := newestRounds b - 1)
    (by unfold horizon at hmany; omega) (by unfold horizon at hmany; omega)
  unfold horizon at hmany
  unfold Double.wholeLimit at hsmall
  omega

section Run

variable {maxWait : Yaml} (hwait : Budget.ofSetting maxWait = .seconds budget)
  {begun : Rat} (hclock : w.clock.value? = some begun) (hbegun : 0 ≤ begun)
  (hearly : begun ≤ (2 : Rat) ^ (46 : Int))

include hwait hclock hbegun hearly

/-- After rounds that decide nothing the search is where it would have begun with what is left
of its budget. -/
theorem newestRunningPod_skip {n : Nat} (hn : n < newestRounds b)
    (hopen : ∀ j, 1 ≤ j → j ≤ n →
      ¬ (usual ns labels images).NewestDecisive j ((usual ns labels images).answer w j)) :
    ∃ rounds, newestRunningPod (usual ns labels images) maxWait usualGrace w =
      (usual ns labels images).newestRunning usualGrace w.clock (rounds + 1)
        ((usual ns labels images).left budget n) ((usual ns labels images).after w n) := by
  obtain ⟨rounds, hrounds⟩ : ∃ rounds, horizon = rounds + 1 + n :=
    ⟨horizon - (n + 1), by have := newestRounds_lt_horizon hsmall; omega⟩
  have hstart : newestRunningPod (usual ns labels images) maxWait usualGrace w =
      (usual ns labels images).newestRunning usualGrace w.clock horizon budget w := by
    unfold newestRunningPod
    rw [Run.bind_of_ok (Clock.read_apply w), hwait]
  refine ⟨rounds, ?_⟩
  rw [hstart, hrounds]
  apply newestRunning_skip
  · intro j hj
    exact newestVerdict_eq_none ns labels images hclock hbegun hearly
      (hopen (j + 1) (by omega) (by omega))
  · intro j hj
    exact left_pos ns labels images hbudget hsmall (by omega) (by omega)

/-- The first answer that decides ends the search with its outcome. -/
theorem newestRunningPod_decided {k : Nat} {outcome : Except Halt Pod} (hk : 1 ≤ k)
    (hle : k ≤ newestRounds b)
    (hopen : ∀ j, 1 ≤ j → j < k →
      ¬ (usual ns labels images).NewestDecisive j ((usual ns labels images).answer w j))
    (hdecides : (usual ns labels images).NewestDecides k
      ((usual ns labels images).answer w k) outcome) :
    let run := newestRunningPod (usual ns labels images) maxWait usualGrace w
    run.1 = outcome ∧ (usual ns labels images).Took k (2 * k - 1) w run.2 := by
  obtain ⟨n, rfl⟩ : ∃ n, k = n + 1 := ⟨k - 1, by omega⟩
  obtain ⟨rounds, hskip⟩ := newestRunningPod_skip ns labels images hbudget hsmall hwait hclock
    hbegun hearly (n := n) (by omega) (fun j hj hj' => hopen j hj (by omega))
  have hverdict := newestVerdict_after ns labels images hclock hbegun hearly n
  rw [(newestDecides_iff _).mp hdecides] at hverdict
  obtain ⟨w', hrun, htook⟩ := newestRunning_of_verdict _ rounds
    ((usual ns labels images).left budget n) hverdict
  rw [hskip.trans hrun]
  exact ⟨rfl, took_decided ns labels images htook⟩

/-- Without an answer that decides the search ends when its budget is used up. -/
theorem newestRunningPod_undecided
    (hopen : ∀ j, 1 ≤ j → j ≤ newestRounds b →
      ¬ (usual ns labels images).NewestDecisive j ((usual ns labels images).answer w j)) :
    let run := newestRunningPod (usual ns labels images) maxWait usualGrace w
    run.1 = .error (usual ns labels images).timeout ∧
      (usual ns labels images).Took (newestRounds b) (2 * newestRounds b) w run.2 := by
  obtain ⟨n, hn⟩ : ∃ n, newestRounds b = n + 1 :=
    ⟨newestRounds b - 1, (Nat.succ_pred_eq_of_pos (by unfold newestRounds; omega)).symm⟩
  obtain ⟨rounds, hskip⟩ := newestRunningPod_skip ns labels images hbudget hsmall hwait hclock
    hbegun hearly (n := n) (by omega) (fun j hj hj' => hopen j hj (by omega))
  have hnone := newestVerdict_eq_none ns labels images hclock hbegun hearly
    (hopen (n + 1) (by omega) (by omega))
  have hused := left_newestRounds ns labels images hbudget hsmall
  rw [hn, left_succ] at hused
  rw [hskip, newestRunning_of_open _ _ _ hnone, if_pos hused, ← after_succ, ← hn]
  exact ⟨rfl, took_undecided ns labels images w _⟩

end Run

end Budget

/-- The whole law of the search with the usual pause and grace. The budget is any setting that
stands for a whole number of seconds that binary64 counts down exactly, and the clock may start
at any time within two million years. -/
theorem newestRunningPod_law {maxWait : Yaml} {budget : Double} {b : Int}
    (hwait : Budget.ofSetting maxWait = .seconds budget)
    (hbudget : budget.value? = some (b : Rat)) (hsmall : b.natAbs ≤ 2 ^ 53)
    {w : World} {begun : Rat} (hclock : w.clock.value? = some begun) (hbegun : 0 ≤ begun)
    (hearly : begun ≤ 2 ^ 46) :
    let s := usual ns labels images
    let run := newestRunningPod s maxWait usualGrace w
    let rounds := max 1 ⌈(b : Rat) / 2⌉₊
    (∀ k outcome, 1 ≤ k → k ≤ rounds →
      (∀ j, 1 ≤ j → j < k → ¬ s.NewestDecisive j (s.answer w j)) →
      s.NewestDecides k (s.answer w k) outcome →
      run.1 = outcome ∧ s.Took k (2 * k - 1) w run.2) ∧
    ((∀ k, 1 ≤ k → k ≤ rounds → ¬ s.NewestDecisive k (s.answer w k)) →
      run.1 = .error s.timeout ∧ s.Took rounds (2 * rounds) w run.2) ∧
    (b ≤ 60 → ∀ terms place, run.1 ≠ .error (.failed (.noMatchingPod terms place))) := by
  intro s run rounds
  have hlimit : b.natAbs ≤ Double.wholeLimit := by
    unfold Double.wholeLimit
    omega
  have hzpow : begun ≤ (2 : Rat) ^ (46 : Int) := by
    rw [show (46 : Int) = ((46 : Nat) : Int) from rfl, zpow_natCast]
    exact hearly
  have hdecided : ∀ k outcome, 1 ≤ k → k ≤ rounds →
      (∀ j, 1 ≤ j → j < k → ¬ s.NewestDecisive j (s.answer w j)) →
      s.NewestDecides k (s.answer w k) outcome →
      run.1 = outcome ∧ s.Took k (2 * k - 1) w run.2 := by
    intro k outcome hk hle hopen hdecides
    exact newestRunningPod_decided ns labels images hbudget hlimit hwait hclock hbegun hzpow hk hle
      hopen hdecides
  have hundecided : (∀ k, 1 ≤ k → k ≤ rounds → ¬ s.NewestDecisive k (s.answer w k)) →
      run.1 = .error s.timeout ∧ s.Took rounds (2 * rounds) w run.2 := by
    intro hopen
    exact newestRunningPod_undecided ns labels images hbudget hlimit hwait hclock hbegun hzpow hopen
  refine ⟨hdecided, hundecided, ?_⟩
  intro hshort terms place hnone
  -- with at most thirty rounds no answer is late enough
  have hfew : rounds ≤ 30 := by
    refine max_le (by norm_num) (Nat.ceil_le.mpr ?_)
    have : (b : Rat) ≤ 60 := by exact_mod_cast hshort
    push_cast
    linarith
  rcases exists_first_or_none (fun k => s.NewestDecisive k (s.answer w k)) rounds with
    ⟨k, hk, hle, ⟨outcome, hdecides⟩, hopen⟩ | hopen
  · have hrun := (hdecided k outcome hk hle hopen hdecides).1
    rw [hnone] at hrun
    have hlate := s.late_of_noMatchingPod (hrun ▸ hdecides)
    omega
  · have hrun := (hundecided hopen).1
    rw [hnone] at hrun
    cases hrun

/-- With a budget of 61 seconds and never a pod, the last of 31 rounds finds that there is none. -/
theorem newestRunningPod_never_a_pod :
    let s := usual (.text "default") "app=web" ["web:1"]
    let run := newestRunningPod s (.integer 61) usualGrace World.empty
    run.1 = .error s.noMatch ∧ s.Took 31 61 World.empty run.2 := by
  intro s run
  have hwait : Budget.ofSetting (.integer 61) = .seconds (.finite 61) := by decide +kernel
  have hclock : World.empty.clock.value? = some 0 := rfl
  have hopen : ∀ j, 1 ≤ j → j < 31 → ¬ s.NewestDecisive j (s.answer World.empty j) := by
    rintro j - hlt ⟨outcome, hdecides⟩
    rw [newestDecides_iff, decide_eq_false (by omega)] at hdecides
    cases hdecides
  have hlast : s.NewestDecides 31 (s.answer World.empty 31) (.error s.noMatch) :=
    .absent (by simp) (by simp) le_rfl
  have hrounds : 31 ≤ max 1 ⌈((61 : Int) : Rat) / 2⌉₊ :=
    le_max_of_le_right (Nat.lt_ceil.mpr (by norm_num))
  have hseconds : 2 * ((31 : Nat) : Rat) - 1 = 61 := by norm_num
  have hlaw := (newestRunningPod_law (.text "default") "app=web" ["web:1"] hwait (b := 61) rfl
    (by norm_num) hclock le_rfl (by norm_num)).1 31 (.error s.noMatch) (by norm_num) hrounds
    hopen hlast
  rw [hseconds] at hlaw
  exact hlaw

end Law

end PodReach.Discovery.Search
