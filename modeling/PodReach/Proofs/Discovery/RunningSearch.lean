import Mathlib.Algebra.Order.Floor.Semiring
import Mathlib.Data.Rat.Floor
import PodReach.Proofs.Discovery.Newest
import PodReach.Proofs.Discovery.Polling

/-!
# The search for the running pods of an image, run to its end

The budget is looked at before a round and lasts as long as it is not negative, so a budget of
zero still pays for a round. The minimum wait is counted down beside it: with the usual minute a
list without pods of the image is accepted from the 31st answer on. A list that is empty, or
holds a pod that has to be waited for, never ends the search.
-/

namespace PodReach.Discovery

/-- A pod goes wrong in only two ways: it will not recover, or a part of it is missing. -/
theorem contribution_error {images : List String} {pod : Pod} {halt : Halt}
    (h : contribution images pod = .error halt) :
    (∃ name status, halt = .failed (.criticalPod name status)) ∨
      (halt = .mistake .noSuchPart ∧ ¬ pod.Complete) := by
  cases hstatus : pod.status? with
  | none =>
      rw [contribution, hstatus] at h
      cases h
      refine Or.inr ⟨rfl, fun hcomplete => ?_⟩
      obtain ⟨status, hsome⟩ := hcomplete.status?_isSome
      rw [hstatus] at hsome
      cases hsome
  | some status =>
      cases hspec : pod.spec with
      | none =>
          rw [contribution, hstatus, hspec] at h
          cases h
          refine Or.inr ⟨rfl, fun hcomplete => ?_⟩
          have hsome := hcomplete.spec
          rw [hspec] at hsome
          cases hsome
      | some spec =>
          rw [contribution_of_parts hstatus hspec, contributionOf] at h
          split_ifs at h
          cases h
          exact Or.inl ⟨_, _, rfl⟩

/-- A list of pods goes wrong in the same ways. -/
theorem collect_error {images : List String} {pods : List Pod} {halt : Halt}
    (h : collect images pods = .error halt) :
    (∃ name status, halt = .failed (.criticalPod name status)) ∨
      (halt = .mistake .noSuchPart ∧ ¬ ∀ pod ∈ pods, pod.Complete) := by
  induction pods with
  | nil => cases h
  | cons pod rest ih =>
      have hrest : collect images rest = .error halt →
          (∃ name status, halt = .failed (.criticalPod name status)) ∨
            (halt = .mistake .noSuchPart ∧ ¬ ∀ p ∈ pod :: rest, p.Complete) := by
        intro herror
        rcases ih herror with hcritical | ⟨hmissing, hincomplete⟩
        · exact Or.inl hcritical
        · exact Or.inr ⟨hmissing, fun hall => hincomplete (List.forall_mem_cons.mp hall).2⟩
      unfold collect at h
      cases hpod : contribution images pod with
      | error halt' =>
          rw [hpod] at h
          cases h
          rcases contribution_error hpod with hcritical | ⟨hmissing, hincomplete⟩
          · exact Or.inl hcritical
          · exact Or.inr ⟨hmissing, fun hall => hincomplete (List.forall_mem_cons.mp hall).1⟩
      | ok contribution =>
          rw [hpod] at h
          cases contribution with
          | wait => cases h
          | nothing => exact hrest h
          | itself =>
              cases hcollected : collect images rest with
              | error halt' =>
                  simp only [hcollected, bind, Except.bind] at h
                  cases h
                  exact hrest hcollected
              | ok collected =>
                  simp only [hcollected, bind, Except.bind] at h
                  cases collected <;> cases h

namespace Search

variable (s : Search) {w : World}

/-! ## What an answer settles -/

/-- What a list of pods settles: the pods of the image, if it is not empty, none of them has to be
waited for, and there are some or the minimum wait is over. -/
def judgeRunning (minWait : Double) (pods : List Pod) : Option (Except Halt (List Pod)) :=
  match s.settled minWait pods with
  | .error halt => some (.error halt)
  | .ok none => none
  | .ok (some found) => some (.ok found)

theorem judgeRunning_nil (minWait : Double) : s.judgeRunning minWait [] = none := rfl

section Judge

variable {pods : List Pod} (minWait : Double) (hpods : pods ≠ [])

include hpods

private theorem settled_eq :
    s.settled minWait pods = (collect s.images pods).bind fun
      | .wait => .ok none
      | .ready found => if !found.isEmpty || minWait.le 0 then .ok (some found) else .ok none := by
  rw [settled, if_neg (by simpa using hpods)]
  rfl

theorem judgeRunning_of_error {halt : Halt} (h : collect s.images pods = .error halt) :
    s.judgeRunning minWait pods = some (.error halt) := by
  rw [judgeRunning, s.settled_eq minWait hpods, h]
  rfl

theorem judgeRunning_of_wait (h : collect s.images pods = .ok .wait) :
    s.judgeRunning minWait pods = none := by
  rw [judgeRunning, s.settled_eq minWait hpods, h]
  rfl

theorem judgeRunning_of_ready {found : List Pod}
    (h : collect s.images pods = .ok (.ready found)) :
    s.judgeRunning minWait pods =
      if !found.isEmpty || minWait.le 0 then some (.ok found) else none := by
  rw [judgeRunning, s.settled_eq minWait hpods, h]
  simp only [Except.bind]
  split_ifs <;> rfl

end Judge

/-- What the next answer settles. -/
def runningVerdict (minWait : Double) (w : World) : Option (Except Halt (List Pod)) :=
  settledBy (s.judgeRunning minWait) (s.answer w 1)

/-- A round of the search ends as its answer says. -/
theorem runningRound_eq (minWait : Double) (w : World) :
    ∃ w', s.runningRound minWait w = (roundOutcome (s.runningVerdict minWait w), w') ∧
      s.Took 1 s.pauseSeconds w w' ∧ (s.runningVerdict minWait w = none → w' = s.asked w) := by
  apply round_of_judge
  intro pods
  rw [Run.ofExcept_apply]
  unfold judgeRunning
  rcases s.settled minWait pods with _ | _ | _ <;> rfl

/-! ## Runs -/

/-- An answer that settles something ends the run with it. -/
theorem running_of_verdict {outcome : Except Halt (List Pod)} (rounds : Nat)
    {budget minWait : Double} (hbudget : Double.le 0 budget = true)
    (h : s.runningVerdict minWait w = some outcome) :
    ∃ w', s.running (rounds + 1) budget minWait w = (outcome, w') ∧
      s.Took 1 s.pauseSeconds w w' := by
  obtain ⟨w', hround, htook, -⟩ := s.runningRound_eq minWait w
  refine ⟨w', ?_, htook⟩
  rw [h] at hround
  unfold running
  rw [if_pos hbudget]
  cases outcome with
  | error halt => exact Run.bind_of_error hround
  | ok pods => exact Run.bind_of_ok hround

/-- An answer that settles nothing takes a round off the budget and off the minimum wait. -/
theorem running_of_open (rounds : Nat) {budget minWait : Double}
    (hbudget : Double.le 0 budget = true) (h : s.runningVerdict minWait w = none) :
    s.running (rounds + 1) budget minWait w =
      s.running rounds (budget.sub s.roundTime) (minWait.sub s.roundTime) (s.rested w) := by
  obtain ⟨w', hround, -, hworld⟩ := s.runningRound_eq minWait w
  rw [h] at hround
  obtain rfl := hworld h
  conv_lhs => unfold running
  rw [if_pos hbudget, Run.bind_of_ok hround]
  dsimp only
  rw [Run.bind_of_ok (Clock.pause_apply s.interval (s.asked w))]
  rfl

/-- A negative budget ends the run before a question. -/
theorem running_of_negative (rounds : Nat) {budget : Double} (minWait : Double)
    (hbudget : Double.le 0 budget = false) :
    s.running (rounds + 1) budget minWait w = (.error s.timeout, w) := by
  unfold running
  rw [if_neg (by rw [hbudget]; exact Bool.false_ne_true)]
  rfl

/-- Answers that settle nothing are passed over as long as the budget lasts. -/
theorem running_skip {n : Nat} (rounds : Nat) (budget minWait : Double)
    (hlasts : ∀ j < n, Double.le 0 (s.left budget j) = true)
    (hopen : ∀ j < n, s.runningVerdict (s.left minWait j) (s.after w j) = none) :
    s.running (rounds + n) budget minWait w =
      s.running rounds (s.left budget n) (s.left minWait n) (s.after w n) := by
  induction n generalizing rounds with
  | zero => rfl
  | succ n ih =>
      have hbefore := ih (rounds + 1) (fun j hj => hlasts j (by omega))
        (fun j hj => hopen j (by omega))
      rw [show rounds + (n + 1) = rounds + 1 + n by omega, hbefore,
        s.running_of_open rounds (hlasts n (by omega)) (hopen n (by omega)), ← s.left_succ,
        ← s.left_succ, s.after_succ]

/-! ## The law of the usual search -/

/-- What an answer decides when it is the `k`-th of a search for the running pods of an image. -/
inductive RunningDecides (k : Nat) : Except Fault (List Pod) → Except Halt (List Pod) → Prop
  /-- A fault ends the search. -/
  | refused {fault : Fault} : RunningDecides k (.error fault) (.error (.fault fault))
  /-- A pod of the image will not recover. -/
  | critical {pods : List Pod} {name : Option String} {status : String} (nonempty : pods ≠ [])
      (collected : collect s.images pods = .error (.failed (.criticalPod name status))) :
      RunningDecides k (.ok pods) (.error (.failed (.criticalPod name status)))
  /-- No pod has to be waited for, and some were found or it is late. -/
  | ready {pods found : List Pod} (nonempty : pods ≠ [])
      (collected : collect s.images pods = .ok (.ready found)) (enough : found ≠ [] ∨ 31 ≤ k) :
      RunningDecides k (.ok pods) (.ok found)
  /-- The scan met a pod of which a part is missing. -/
  | incomplete {pods : List Pod} (incomplete : ¬ ∀ p ∈ pods, p.Complete)
      (collected : collect s.images pods = .error (.mistake .noSuchPart)) :
      RunningDecides k (.ok pods) (.error (.mistake .noSuchPart))

/-- Whether an answer decides anything when it is the `k`-th. -/
def RunningDecisive (k : Nat) (answer : Except Fault (List Pod)) : Prop :=
  ∃ outcome, s.RunningDecides k answer outcome

/-- The search decides as the relation says, once the minimum wait says whether it is late. -/
theorem runningDecides_iff {k : Nat} {minWait : Double}
    (hlate : minWait.le 0 = decide (31 ≤ k)) {answer : Except Fault (List Pod)}
    {outcome : Except Halt (List Pod)} :
    s.RunningDecides k answer outcome ↔
      settledBy (s.judgeRunning minWait) answer = some outcome := by
  constructor
  · intro h
    cases h with
    | refused => rfl
    | critical nonempty collected => exact s.judgeRunning_of_error minWait nonempty collected
    | ready nonempty collected enough =>
        refine (s.judgeRunning_of_ready minWait nonempty collected).trans (if_pos ?_)
        simpa [hlate] using enough
    | @incomplete pods incomplete collected =>
        have nonempty : pods ≠ [] := by
          rintro rfl
          exact incomplete (by simp)
        exact s.judgeRunning_of_error minWait nonempty collected
  · intro hsettled
    cases answer with
    | error fault =>
        cases hsettled
        exact .refused
    | ok pods =>
        change s.judgeRunning minWait pods = some outcome at hsettled
        by_cases hpods : pods = []
        · rw [hpods, judgeRunning_nil] at hsettled
          cases hsettled
        · cases hcollected : collect s.images pods with
          | error halt =>
              rw [s.judgeRunning_of_error minWait hpods hcollected] at hsettled
              cases hsettled
              rcases collect_error hcollected with ⟨name, status, rfl⟩ | ⟨rfl, hincomplete⟩
              · exact .critical hpods hcollected
              · exact .incomplete hincomplete hcollected
          | ok collected =>
              cases collected with
              | wait =>
                  rw [s.judgeRunning_of_wait minWait hpods hcollected] at hsettled
                  cases hsettled
              | ready found =>
                  rw [s.judgeRunning_of_ready minWait hpods hcollected] at hsettled
                  split_ifs at hsettled with henough
                  cases hsettled
                  exact .ready hpods hcollected (by simpa [hlate] using henough)

/-- That no pod uses the images is decided by the 31st answer at the earliest. -/
theorem late_of_nothing {k : Nat} {answer : Except Fault (List Pod)}
    (h : s.RunningDecides k answer (.ok [])) : 31 ≤ k := by
  cases h with
  | ready nonempty collected enough => exact enough.resolve_left (fun hfound => hfound rfl)

/-- An answer that does not decide settles nothing. -/
theorem judgeRunning_eq_none {k : Nat} {minWait : Double}
    (hlate : minWait.le 0 = decide (31 ≤ k)) {answer : Except Fault (List Pod)}
    (hopen : ¬ s.RunningDecisive k answer) :
    settledBy (s.judgeRunning minWait) answer = none := by
  rw [Option.eq_none_iff_forall_ne_some]
  intro outcome hsettled
  exact hopen ⟨outcome, (s.runningDecides_iff hlate).mpr hsettled⟩

section Law

variable (ns : Yaml) (labels : String) (images : List String)

/-- The rounds that a budget of whole seconds pays for: none if it is negative, and otherwise one
more than it can pay in full. -/
def runningRounds (b : Int) : Nat :=
  if 0 ≤ b then ⌊(b : Rat) / 2⌋₊ + 1 else 0

theorem lt_runningRounds_iff {b : Int} {n : Nat} : n < runningRounds b ↔ 2 * (n : Int) ≤ b := by
  unfold runningRounds
  split_ifs with hb
  · have hhalf : (0 : Rat) ≤ (b : Rat) / 2 := by
      have : (0 : Rat) ≤ (b : Rat) := by exact_mod_cast hb
      linarith
    rw [Nat.lt_succ_iff, Nat.le_floor_iff hhalf, le_div_iff₀ (by norm_num), mul_comm]
    exact_mod_cast Iff.rfl
  · constructor
    · intro hn
      omega
    · intro hn
      omega

/-- With the usual minimum wait the 31st answer is the first one that is late. -/
theorem left_minWait (n : Nat) (hn : 2 * n ≤ Double.wholeLimit) :
    ((usual ns labels images).left usualMinWait n).le 0 = decide (31 ≤ n + 1) := by
  have hminute : usualMinWait.value? = some ((60 : Int) : Rat) :=
    Double.value?_ofInt (n := 60) (by decide)
  have hvalue := value?_left ns labels images hminute (by decide) n (by
    unfold Double.wholeLimit at hn ⊢
    omega)
  rw [Double.le_of_value? hvalue (Double.value?_ofNat 0 (by decide))]
  simp only [decide_eq_decide]
  have hrat : ((60 - 2 * n : Int) : Rat) ≤ ((0 : Nat) : Rat) ↔ (60 - 2 * n : Int) ≤ 0 := by
    exact_mod_cast Iff.rfl
  rw [hrat]
  omega

section Budget

variable {budget : Double} {b : Int} (hbudget : budget.value? = some (b : Rat))
  (hsmall : b.natAbs ≤ Double.wholeLimit)

include hbudget hsmall

/-- A round is begun exactly if the budget pays for it. -/
theorem zero_le_left {n : Nat} (hn : n ≤ runningRounds b) :
    Double.le 0 ((usual ns labels images).left budget n) = decide (n < runningRounds b) := by
  have hwhole : (b - 2 * n).natAbs ≤ Double.wholeLimit := by
    cases n with
    | zero => simpa using hsmall
    | succ n =>
        have hpaid := lt_runningRounds_iff.mp (Nat.lt_of_succ_le hn)
        unfold Double.wholeLimit at hsmall ⊢
        omega
  have hvalue := value?_left ns labels images hbudget hsmall n hwhole
  rw [Double.le_of_value? (Double.value?_ofNat 0 (by decide)) hvalue]
  simp only [decide_eq_decide, lt_runningRounds_iff]
  have hrat : ((0 : Nat) : Rat) ≤ ((b - 2 * n : Int) : Rat) ↔ 0 ≤ (b - 2 * n : Int) := by
    exact_mod_cast Iff.rfl
  rw [hrat]
  omega

omit hbudget in
/-- A search can be watched for as many rounds as it makes. -/
theorem runningRounds_lt_horizon : runningRounds b < horizon := by
  by_contra hmany
  have hpaid := lt_runningRounds_iff (b := b) (n := runningRounds b - 1)
  unfold horizon at hmany
  unfold Double.wholeLimit at hsmall
  omega

section Run

variable {maxWait : Yaml} (hwait : Budget.ofSetting maxWait = .seconds budget)

include hwait

/-- After rounds that decide nothing the search is where it would have begun with what is left
of its budget and of the minimum wait. -/
theorem runningPodsWithImage_skip {n : Nat} (hn : n ≤ runningRounds b)
    (hopen : ∀ j, 1 ≤ j → j ≤ n →
      ¬ (usual ns labels images).RunningDecisive j ((usual ns labels images).answer w j)) :
    ∃ rounds, runningPodsWithImage (usual ns labels images) maxWait usualMinWait w =
      (usual ns labels images).running (rounds + 1) ((usual ns labels images).left budget n)
        ((usual ns labels images).left usualMinWait n) ((usual ns labels images).after w n) := by
  obtain ⟨rounds, hrounds⟩ : ∃ rounds, horizon = rounds + 1 + n :=
    ⟨horizon - (n + 1), by have := runningRounds_lt_horizon hsmall; omega⟩
  have hstart : runningPodsWithImage (usual ns labels images) maxWait usualMinWait =
      (usual ns labels images).running horizon budget usualMinWait := by
    unfold runningPodsWithImage
    rw [hwait]
  refine ⟨rounds, ?_⟩
  rw [hstart, hrounds]
  apply running_skip
  · intro j hj
    rw [zero_le_left ns labels images hbudget hsmall (by omega)]
    exact decide_eq_true (by omega)
  · intro j hj
    have hpaid := lt_runningRounds_iff.mp (show j < runningRounds b by omega)
    have hlate := left_minWait ns labels images j (by omega)
    rw [runningVerdict, answer_after]
    exact judgeRunning_eq_none _ hlate (hopen (j + 1) (by omega) (by omega))

/-- The first answer that decides ends the search with its outcome. -/
theorem runningPodsWithImage_decided {k : Nat} {outcome : Except Halt (List Pod)} (hk : 1 ≤ k)
    (hle : k ≤ runningRounds b)
    (hopen : ∀ j, 1 ≤ j → j < k →
      ¬ (usual ns labels images).RunningDecisive j ((usual ns labels images).answer w j))
    (hdecides : (usual ns labels images).RunningDecides k
      ((usual ns labels images).answer w k) outcome) :
    let run := runningPodsWithImage (usual ns labels images) maxWait usualMinWait w
    run.1 = outcome ∧ (usual ns labels images).Took k (2 * k - 1) w run.2 := by
  obtain ⟨n, rfl⟩ : ∃ n, k = n + 1 := ⟨k - 1, by omega⟩
  obtain ⟨rounds, hskip⟩ := runningPodsWithImage_skip ns labels images hbudget hsmall hwait
    (n := n) (by omega) (fun j hj hj' => hopen j hj (by omega))
  have hlasts := zero_le_left ns labels images hbudget hsmall (n := n) (by omega)
  rw [decide_eq_true (by omega)] at hlasts
  have hpaid := lt_runningRounds_iff.mp (show n < runningRounds b by omega)
  have hlate := left_minWait ns labels images n (by omega)
  have hverdict : (usual ns labels images).runningVerdict
      ((usual ns labels images).left usualMinWait n) ((usual ns labels images).after w n) =
        some outcome := by
    rw [runningVerdict, answer_after]
    exact (runningDecides_iff _ hlate).mp hdecides
  obtain ⟨w', hrun, htook⟩ := running_of_verdict _ rounds hlasts hverdict
  rw [hskip.trans hrun]
  exact ⟨rfl, took_decided ns labels images htook⟩

/-- Without an answer that decides the search ends when its budget is negative. -/
theorem runningPodsWithImage_undecided
    (hopen : ∀ j, 1 ≤ j → j ≤ runningRounds b →
      ¬ (usual ns labels images).RunningDecisive j ((usual ns labels images).answer w j)) :
    let run := runningPodsWithImage (usual ns labels images) maxWait usualMinWait w
    run.1 = .error (usual ns labels images).timeout ∧
      (usual ns labels images).Took (runningRounds b) (2 * runningRounds b) w run.2 := by
  obtain ⟨rounds, hskip⟩ := runningPodsWithImage_skip ns labels images hbudget hsmall hwait
    le_rfl hopen
  have hused := zero_le_left ns labels images hbudget hsmall (n := runningRounds b) le_rfl
  rw [decide_eq_false (lt_irrefl _)] at hused
  rw [hskip, running_of_negative _ rounds _ hused]
  exact ⟨rfl, took_undecided ns labels images w _⟩

end Run

end Budget

/-- The whole law of the search with the usual pause and minimum wait. The budget is any setting
that stands for a whole number of seconds that binary64 counts down exactly. -/
theorem runningPodsWithImage_law {maxWait : Yaml} {budget : Double} {b : Int}
    (hwait : Budget.ofSetting maxWait = .seconds budget)
    (hbudget : budget.value? = some (b : Rat)) (hsmall : b.natAbs ≤ 2 ^ 53) (w : World) :
    let s := usual ns labels images
    let run := runningPodsWithImage s maxWait usualMinWait w
    let rounds := if 0 ≤ b then ⌊(b : Rat) / 2⌋₊ + 1 else 0
    (∀ k outcome, 1 ≤ k → k ≤ rounds →
      (∀ j, 1 ≤ j → j < k → ¬ s.RunningDecisive j (s.answer w j)) →
      s.RunningDecides k (s.answer w k) outcome →
      run.1 = outcome ∧ s.Took k (2 * k - 1) w run.2) ∧
    ((∀ k, 1 ≤ k → k ≤ rounds → ¬ s.RunningDecisive k (s.answer w k)) →
      run.1 = .error s.timeout ∧ s.Took rounds (2 * rounds) w run.2) ∧
    (run.1 = .ok [] → ∃ k, 31 ≤ k ∧ k ≤ rounds ∧ s.Took k (2 * k - 1) w run.2) ∧
    (b < 60 → run.1 ≠ .ok []) := by
  intro s run rounds
  have hlimit : b.natAbs ≤ Double.wholeLimit := by
    unfold Double.wholeLimit
    omega
  have hdecided : ∀ k outcome, 1 ≤ k → k ≤ rounds →
      (∀ j, 1 ≤ j → j < k → ¬ s.RunningDecisive j (s.answer w j)) →
      s.RunningDecides k (s.answer w k) outcome →
      run.1 = outcome ∧ s.Took k (2 * k - 1) w run.2 := by
    intro k outcome hk hle hopen hdecides
    exact runningPodsWithImage_decided ns labels images hbudget hlimit hwait hk hle hopen hdecides
  have hundecided : (∀ k, 1 ≤ k → k ≤ rounds → ¬ s.RunningDecisive k (s.answer w k)) →
      run.1 = .error s.timeout ∧ s.Took rounds (2 * rounds) w run.2 := by
    intro hopen
    exact runningPodsWithImage_undecided ns labels images hbudget hlimit hwait hopen
  have hempty : run.1 = .ok [] → ∃ k, 31 ≤ k ∧ k ≤ rounds ∧ s.Took k (2 * k - 1) w run.2 := by
    intro hnothing
    rcases exists_first_or_none (fun k => s.RunningDecisive k (s.answer w k)) rounds with
      ⟨k, hk, hle, ⟨outcome, hdecides⟩, hopen⟩ | hopen
    · obtain ⟨hrun, htook⟩ := hdecided k outcome hk hle hopen hdecides
      rw [hnothing] at hrun
      exact ⟨k, s.late_of_nothing (hrun ▸ hdecides), hle, htook⟩
    · have hrun := (hundecided hopen).1
      rw [hnothing] at hrun
      cases hrun
  refine ⟨hdecided, hundecided, hempty, ?_⟩
  intro hshort hnothing
  -- thirty rounds are paid for at most, and none of their answers is late enough
  obtain ⟨k, hlate, hle, -⟩ := hempty hnothing
  have hpaid := lt_runningRounds_iff.mp (show 30 < runningRounds b from by
    exact lt_of_lt_of_le (by omega) hle)
  omega

/-- A pod that runs, but with another image than those that are searched for. -/
private def bystander : Pod where
  metadata := some ⟨some "db-0", some "default", [], none, false⟩
  spec := some ⟨[⟨some "main", some "db:1", false, false⟩], 0⟩
  status := some ⟨some "Running", none, [], []⟩

/-- With a budget of 60 seconds and never a pod of the image, the last of 31 rounds accepts that
there is none. -/
theorem runningPodsWithImage_other_image :
    let s := usual (.text "default") "" ["web:1"]
    let w := { World.empty with
      cluster := { Cluster.empty with listAnswers := fun _ => .ok [bystander] } }
    let run := runningPodsWithImage s (.integer 60) usualMinWait w
    run.1 = .ok [] ∧ s.Took 31 61 w run.2 := by
  intro s w run
  have hwait : Budget.ofSetting (.integer 60) = .seconds (.finite 60) := by decide +kernel
  have hanswer : ∀ j, s.answer w j = .ok [bystander] := fun j => rfl
  have hcollected : collect s.images [bystander] = .ok (.ready []) := by decide
  have hopen : ∀ j, 1 ≤ j → j < 31 → ¬ s.RunningDecisive j (s.answer w j) := by
    rintro j - hlt ⟨outcome, hdecides⟩
    rw [hanswer] at hdecides
    cases hdecides with
    | critical nonempty collected => cases hcollected.symm.trans collected
    | ready nonempty collected enough =>
        cases hcollected.symm.trans collected
        exact absurd (enough.resolve_left (fun hfound => hfound rfl)) (by omega)
    | incomplete incomplete collected => cases hcollected.symm.trans collected
  have hlast : s.RunningDecides 31 (s.answer w 31) (.ok []) :=
    .ready (List.cons_ne_nil _ _) hcollected (Or.inr le_rfl)
  have hrounds : 31 ≤ if (0 : Int) ≤ 60 then ⌊((60 : Int) : Rat) / 2⌋₊ + 1 else 0 := by
    rw [if_pos (by norm_num)]
    exact Nat.succ_le_succ (Nat.le_floor (by norm_num))
  have hseconds : 2 * ((31 : Nat) : Rat) - 1 = 61 := by norm_num
  have hlaw := (runningPodsWithImage_law (.text "default") "" ["web:1"] hwait (b := 60) rfl
    (by norm_num) w).1 31 (.ok []) (by norm_num) hrounds hopen hlast
  rw [hseconds] at hlaw
  exact hlaw

end Law

end Search

end PodReach.Discovery
