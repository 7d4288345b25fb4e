import PodReach.Proofs.Discovery.RunningSearch

/-!
# Pods that a search for an image should not notice

A bystander is a complete pod that uses none of the images, whatever its status. Two searches
whose answers differ only in bystanders are compared here, answer by answer. The scan of a list
passes bystanders over, so the answers settle the same, with one exception: a list that is empty
never ends a search, while a list of nothing but bystanders does once the minimum wait is over.
Two searches part only there.
-/

namespace PodReach

/-- A complete pod that uses none of the images. -/
structure Pod.Bystander (images : List String) (pod : Pod) : Prop where
  complete : pod.Complete
  passes : ¬ pod.Passes images

namespace Discovery

/-- Two lists that differ only by elements with a property, anywhere in either of them. -/
inductive SameUpTo {α : Type} (extra : α → Prop) : List α → List α → Prop
  | nil : SameUpTo extra [] []
  | both (a : α) {as as' : List α} (same : SameUpTo extra as as') :
      SameUpTo extra (a :: as) (a :: as')
  | left {a : α} {as as' : List α} (isExtra : extra a) (same : SameUpTo extra as as') :
      SameUpTo extra (a :: as) as'
  | right {a : α} {as as' : List α} (isExtra : extra a) (same : SameUpTo extra as as') :
      SameUpTo extra as (a :: as')

namespace SameUpTo

variable {α : Type} {extra : α → Prop} {as as' : List α}

theorem refl (as : List α) : SameUpTo extra as as := by
  induction as with
  | nil => exact .nil
  | cons a as ih => exact .both a ih

theorem symm (h : SameUpTo extra as as') : SameUpTo extra as' as := by
  induction h with
  | nil => exact .nil
  | both a _ ih => exact .both a ih
  | left isExtra _ ih => exact .right isExtra ih
  | right isExtra _ ih => exact .left isExtra ih

/-- What differs from nothing consists of extra elements. -/
theorem nil_iff : SameUpTo extra [] as ↔ ∀ a ∈ as, extra a := by
  constructor
  · intro h
    generalize hnil : ([] : List α) = none at h
    induction h with
    | nil => exact nofun
    | both a _ ih => cases hnil
    | left isExtra _ ih => cases hnil
    | right isExtra _ ih => exact List.forall_mem_cons.mpr ⟨isExtra, ih hnil⟩
  · intro h
    induction as with
    | nil => exact .nil
    | cons a as ih =>
        obtain ⟨hfirst, hrest⟩ := List.forall_mem_cons.mp h
        exact .right hfirst (ih hrest)

end SameUpTo

variable {images : List String} {pod : Pod} {pods pods' : List Pod}

/-- A bystander contributes nothing, whatever its status. -/
theorem contribution_bystander (h : pod.Bystander images) :
    contribution images pod = .ok .nothing := by
  obtain ⟨status, hstatus⟩ := h.complete.status?_isSome
  obtain ⟨spec, hspec⟩ := Option.isSome_iff_exists.mp h.complete.spec
  have himages : images ≠ [] := fun hnil => h.passes (Or.inl hnil)
  have himage : Pod.hasImage images spec = false := by
    rw [← Bool.not_eq_true, ← Pod.passes_iff_hasImage himages hspec]
    exact h.passes
  rw [contribution_of_parts hstatus hspec, himage]
  rfl

theorem collect_bystander (h : pod.Bystander images) :
    collect images (pod :: pods) = collect images pods := by
  conv_lhs => unfold collect
  rw [contribution_bystander h]
  rfl

/-- The scan of a list does not notice bystanders. -/
theorem collect_sameUpTo (h : SameUpTo (Pod.Bystander images) pods pods') :
    collect images pods = collect images pods' := by
  induction h with
  | nil => rfl
  | both pod _ ih => simp only [collect, ih]
  | left isExtra _ ih => rw [collect_bystander isExtra, ih]
  | right isExtra _ ih => rw [collect_bystander isExtra, ih]

/-- Two answers that differ only in bystanders: the same fault, or lists of pods. -/
inductive AnswersAlike (images : List String) :
    Except Fault (List Pod) → Except Fault (List Pod) → Prop
  | fault (fault : Fault) : AnswersAlike images (.error fault) (.error fault)
  | pods {pods pods' : List Pod} (same : SameUpTo (Pod.Bystander images) pods pods') :
      AnswersAlike images (.ok pods) (.ok pods')

namespace Search

variable (s : Search) {w w' : World} {minWait : Double}

/-- Lists that are not empty settle the same if their scans agree. -/
theorem judgeRunning_congr (minWait : Double) (hpods : pods ≠ []) (hpods' : pods' ≠ [])
    (h : collect s.images pods = collect s.images pods') :
    s.judgeRunning minWait pods = s.judgeRunning minWait pods' := by
  unfold judgeRunning settled
  rw [if_neg (by simpa using hpods), if_neg (by simpa using hpods'), h]

/-- Bystanders alone settle that there is no pod of the image once the minimum wait is over. -/
theorem judgeRunning_bystanders (minWait : Double) (hpods : pods ≠ [])
    (h : ∀ pod ∈ pods, pod.Bystander s.images) :
    s.judgeRunning minWait pods = if minWait.le 0 then some (.ok []) else none := by
  have hcollect : collect s.images pods = .ok (.ready []) :=
    (collect_sameUpTo (SameUpTo.nil_iff.mpr h)).symm
  rw [s.judgeRunning_of_ready minWait hpods hcollect]
  rfl

/-- An empty list where the minimum wait is over, against a list of nothing but bystanders. -/
structure OnlyBystanders (minWait : Double) (answer answer' : Except Fault (List Pod)) :
    Prop where
  late : minWait.le 0 = true
  empty : answer = .ok []
  crowd : ∃ pods, pods ≠ [] ∧ answer' = .ok pods ∧ ∀ pod ∈ pods, pod.Bystander s.images

/-- No pod at all never ends a search, and bystanders alone do when it is late. -/
theorem OnlyBystanders.verdicts {s : Search} {w w' : World} {minWait : Double}
    (h : s.OnlyBystanders minWait (s.answer w 1) (s.answer w' 1)) :
    s.runningVerdict minWait w = none ∧ s.runningVerdict minWait w' = some (.ok []) := by
  obtain ⟨pods, hpods, hanswer, hbystanders⟩ := h.crowd
  constructor
  · rw [runningVerdict, h.empty]
    rfl
  · rw [runningVerdict, hanswer]
    exact (s.judgeRunning_bystanders minWait hpods hbystanders).trans (if_pos h.late)

/-- Answers that differ only in bystanders settle the same, unless it is late and one of them is
empty where the other is not. -/
theorem settledBy_alike {answer answer' : Except Fault (List Pod)} (minWait : Double)
    (h : AnswersAlike s.images answer answer') :
    settledBy (s.judgeRunning minWait) answer = settledBy (s.judgeRunning minWait) answer' ∨
      s.OnlyBystanders minWait answer answer' ∨ s.OnlyBystanders minWait answer' answer := by
  cases h with
  | fault fault => exact Or.inl rfl
  | @pods pods pods' same =>
      -- an empty list on one side means that there are only bystanders on the other
      have hempty : ∀ {crowd : List Pod}, crowd ≠ [] →
          SameUpTo (Pod.Bystander s.images) [] crowd →
          s.judgeRunning minWait crowd = none ∨ s.OnlyBystanders minWait (.ok []) (.ok crowd) := by
        intro crowd hcrowd hsame
        have hbystanders := SameUpTo.nil_iff.mp hsame
        rw [s.judgeRunning_bystanders minWait hcrowd hbystanders]
        split_ifs with hlate
        · exact Or.inr ⟨hlate, rfl, crowd, hcrowd, rfl, hbystanders⟩
        · exact Or.inl rfl
      by_cases hpods : pods = [] <;> by_cases hpods' : pods' = []
      · exact Or.inl (by rw [hpods, hpods'])
      · subst hpods
        exact (hempty hpods' same).imp Eq.symm Or.inl
      · subst hpods'
        exact (hempty hpods same.symm).imp id Or.inr
      · exact Or.inl (s.judgeRunning_congr minWait hpods hpods' (collect_sameUpTo same))

/-! ## Two runs -/

/-- Two runs end alike, after equally many questions and pauses. -/
def EndAlike (w w' : World) (run run' : Except Halt (List Pod) × World) : Prop :=
  run.1 = run'.1 ∧ ∃ questions seconds,
    s.Took questions seconds w run.2 ∧ s.Took questions seconds w' run'.2

/-- A question that is asked when the minimum wait is over finds no pod at all in one run and
bystanders in the other, which ends there without a pod. -/
def PartedAt (minWait : Double) (w w' : World) (run' : Except Halt (List Pod) × World)
    (k : Nat) : Prop :=
  s.OnlyBystanders (s.left minWait (k - 1)) (s.answer w k) (s.answer w' k) ∧
    run'.1 = .ok [] ∧ ∃ seconds, s.Took k seconds w' run'.2

/-- Two runs end alike or part over bystanders. -/
def AlikeOrParted (minWait : Double) (w w' : World)
    (run run' : Except Halt (List Pod) × World) : Prop :=
  s.EndAlike w w' run run' ∨
    ∃ k, 1 ≤ k ∧ (s.PartedAt minWait w w' run' k ∨ s.PartedAt minWait w' w run k)

variable {s} {w w' : World} {minWait : Double} {run run' : Except Halt (List Pod) × World}

/-- Runs that end before a question end alike if they end with the same halt. -/
theorem alikeOrParted_unasked (halt : Halt) :
    s.AlikeOrParted minWait w w' (.error halt, w) (.error halt, w') :=
  Or.inl ⟨rfl, 0, 0, .refl w, .refl w'⟩

/-- What is found of two runs after a round that settled nothing in either is true of them from
its start. -/
theorem AlikeOrParted.of_rested
    (h : s.AlikeOrParted (minWait.sub s.roundTime) (s.rested w) (s.rested w') run run') :
    s.AlikeOrParted minWait w w' run run' := by
  have hparted : ∀ {v v' : World} {run : Except Halt (List Pod) × World} {k : Nat}, 1 ≤ k →
      s.PartedAt (minWait.sub s.roundTime) (s.rested v) (s.rested v') run k →
      s.PartedAt minWait v v' run (k + 1) := by
    rintro v v' run k hk ⟨honly, hnone, seconds, htook⟩
    have hleft : s.left (minWait.sub s.roundTime) (k - 1) = s.left minWait k := by
      obtain ⟨n, rfl⟩ : ∃ n, k = n + 1 := ⟨k - 1, by omega⟩
      exact (Function.iterate_succ_apply _ _ _).symm
    rw [hleft, s.answer_rested v hk, s.answer_rested v' hk] at honly
    refine ⟨honly, hnone, 2 * s.pauseSeconds + seconds, ?_⟩
    rw [Nat.add_comm k 1]
    exact (s.took_rested v').trans htook
  rcases h with ⟨houtcome, questions, seconds, htook, htook'⟩ | ⟨k, hk, hsame | hsame⟩
  · exact Or.inl ⟨houtcome, _, _, (s.took_rested w).trans htook, (s.took_rested w').trans htook'⟩
  · exact Or.inr ⟨k + 1, by omega, Or.inl (hparted hk hsame)⟩
  · exact Or.inr ⟨k + 1, by omega, Or.inr (hparted hk hsame)⟩

/-- Runs of one action whose first round ends as its answer says: they end alike or part in that
round, if they do so wherever the round settles nothing in either. -/
theorem alikeOrParted_of_round {action : Run (List Pod)}
    (halike : AnswersAlike s.images (s.answer w 1) (s.answer w' 1))
    (hsettled : ∀ v outcome, s.runningVerdict minWait v = some outcome →
      ∃ v', action v = (outcome, v') ∧ s.Took 1 s.pauseSeconds v v')
    (hopen : s.runningVerdict minWait w = none → s.runningVerdict minWait w' = none →
      s.AlikeOrParted minWait w w' (action w) (action w')) :
    s.AlikeOrParted minWait w w' (action w) (action w') := by
  have hparted : ∀ {v v' : World},
      s.OnlyBystanders minWait (s.answer v 1) (s.answer v' 1) →
      s.PartedAt minWait v v' (action v') 1 := by
    intro v v' honly
    obtain ⟨end', hrun, htook⟩ := hsettled v' _ honly.verdicts.2
    refine ⟨honly, ?_, s.pauseSeconds, ?_⟩ <;> rw [hrun]
    exact htook
  rcases s.settledBy_alike minWait halike with hsame | honly | honly
  · change s.runningVerdict minWait w = s.runningVerdict minWait w' at hsame
    cases hverdict : s.runningVerdict minWait w with
    | none => exact hopen hverdict (hsame ▸ hverdict)
    | some outcome =>
        obtain ⟨last, hrun, htook⟩ := hsettled w outcome hverdict
        obtain ⟨last', hrun', htook'⟩ := hsettled w' outcome (hsame ▸ hverdict)
        rw [hrun, hrun']
        exact Or.inl ⟨rfl, 1, s.pauseSeconds, htook, htook'⟩
  · exact Or.inr ⟨1, le_rfl, Or.inl (hparted honly)⟩
  · exact Or.inr ⟨1, le_rfl, Or.inr (hparted honly)⟩

/-- Two searches that are told the same but for bystanders, round after round. -/
theorem running_alike (rounds : Nat) (budget : Double)
    (halike : ∀ k, 1 ≤ k → AnswersAlike s.images (s.answer w k) (s.answer w' k)) :
    s.AlikeOrParted minWait w w' (s.running rounds budget minWait w)
      (s.running rounds budget minWait w') := by
  induction rounds generalizing w w' budget minWait with
  | zero => exact alikeOrParted_unasked .endless
  | succ rounds ih =>
      cases hbudget : Double.le 0 budget with
      | false =>
          rw [s.running_of_negative rounds minWait hbudget,
            s.running_of_negative rounds minWait hbudget]
          exact alikeOrParted_unasked s.timeout
      | true =>
          refine alikeOrParted_of_round (halike 1 le_rfl)
            (fun v outcome => s.running_of_verdict rounds hbudget) fun hopen hopen' => ?_
          rw [s.running_of_open rounds hbudget hopen, s.running_of_open rounds hbudget hopen']
          refine AlikeOrParted.of_rested (ih _ fun k hk => ?_)
          rw [s.answer_rested w hk, s.answer_rested w' hk]
          exact halike (k + 1) (by omega)

/-- A search that has one round ends with its answer. -/
theorem afterOneRound_of_verdict {outcome : Except Halt (List Pod)} (mistake : Mistake)
    (h : s.runningVerdict minWait w = some outcome) :
    ∃ w', afterOneRound s (s.runningRound minWait) mistake w = (outcome, w') ∧
      s.Took 1 s.pauseSeconds w w' := by
  obtain ⟨w', hround, htook, -⟩ := s.runningRound_eq minWait w
  refine ⟨w', ?_, htook⟩
  rw [h] at hround
  unfold afterOneRound
  cases outcome with
  | error halt => exact Run.bind_of_error hround
  | ok pods => exact Run.bind_of_ok hround

/-- A search that has one round goes wrong after an answer that settles nothing. -/
theorem afterOneRound_of_open (mistake : Mistake) (h : s.runningVerdict minWait w = none) :
    afterOneRound s (s.runningRound minWait) mistake w =
      (.error (.mistake mistake), s.rested w) := by
  obtain ⟨w', hround, -, hworld⟩ := s.runningRound_eq minWait w
  rw [h] at hround
  obtain rfl := hworld h
  unfold afterOneRound
  rw [Run.bind_of_ok hround]
  rfl

/-- Whatever the budget and the pauses are, two searches for the running pods of an image that are
told the same but for bystanders end alike after equally many questions, unless one of them is
told of no pod at all when the minimum wait is over and the other of bystanders. -/
theorem runningPodsWithImage_bystanders (s : Search) (maxWait : Yaml) (minWait : Double)
    {w w' : World}
    (halike : ∀ k, 1 ≤ k → AnswersAlike s.images (s.answer w k) (s.answer w' k)) :
    let run := runningPodsWithImage s maxWait minWait w
    let run' := runningPodsWithImage s maxWait minWait w'
    s.EndAlike w w' run run' ∨
      ∃ k, 1 ≤ k ∧ (s.PartedAt minWait w w' run' k ∨ s.PartedAt minWait w' w run k) := by
  intro run run'
  change s.AlikeOrParted minWait w w' (runningPodsWithImage s maxWait minWait w)
    (runningPodsWithImage s maxWait minWait w')
  unfold runningPodsWithImage
  cases Budget.ofSetting maxWait with
  | seconds budget => exact running_alike horizon budget halike
  | none => exact alikeOrParted_unasked (.mistake .wrongKind)
  | vast negative =>
      cases negative with
      | true => exact alikeOrParted_unasked s.timeout
      | false =>
          change s.AlikeOrParted minWait w w'
            (afterOneRound s (s.runningRound minWait) .overflow w)
            (afterOneRound s (s.runningRound minWait) .overflow w')
          refine alikeOrParted_of_round (halike 1 le_rfl)
            (fun v outcome => afterOneRound_of_verdict .overflow) fun hopen hopen' => ?_
          rw [afterOneRound_of_open .overflow hopen, afterOneRound_of_open .overflow hopen']
          exact Or.inl ⟨rfl, 1, _, s.took_rested w, s.took_rested w'⟩

/-- A pod that runs with the image of the web. -/
private def webPod : Pod where
  metadata := some ⟨some "web-0", some "default", [], none, false⟩
  spec := some ⟨[⟨some "main", some "web:1", false, false⟩], 0⟩
  status := some ⟨some "Running", none, [], []⟩

/-- A pod that has failed, but uses another image. -/
private def strayPod : Pod where
  metadata := some ⟨some "db-0", some "default", [], none, false⟩
  spec := some ⟨[⟨some "main", some "db:1", false, false⟩], 0⟩
  status := some ⟨some "Failed", some "Error", [], []⟩

private theorem bystander_strayPod : strayPod.Bystander ["web:1"] where
  complete := ⟨rfl, rfl, rfl⟩
  passes := by
    have hspec : strayPod.spec = some ⟨[⟨some "main", some "db:1", false, false⟩], 0⟩ := rfl
    rw [Pod.passes_iff_hasImage (by decide) hspec]
    decide

/-- A world whose cluster always lists the same pods. -/
private def listing (pods : List Pod) : World :=
  { World.empty with cluster := { Cluster.empty with listAnswers := fun _ => .ok pods } }

/-- A failed pod of another image changes nothing about a search that finds a running one. -/
theorem runningPodsWithImage_bystanders_failed :
    let s := usual (.text "default") "" ["web:1"]
    let w := listing [webPod]
    let w' := listing [strayPod, webPod]
    (∀ k, 1 ≤ k → AnswersAlike s.images (s.answer w k) (s.answer w' k)) ∧
      s.EndAlike w w' (runningPodsWithImage s (.integer 120) usualMinWait w)
        (runningPodsWithImage s (.integer 120) usualMinWait w') := by
  intro s w w'
  have hanswer : ∀ k, s.answer w k = .ok [webPod] := fun _ => rfl
  have hanswer' : ∀ k, s.answer w' k = .ok [strayPod, webPod] := fun _ => rfl
  have halike : ∀ k, 1 ≤ k → AnswersAlike s.images (s.answer w k) (s.answer w' k) := by
    intro k _
    rw [hanswer, hanswer']
    exact .pods (.right bystander_strayPod (.refl _))
  refine ⟨halike, ?_⟩
  rcases runningPodsWithImage_bystanders s (.integer 120) usualMinWait halike with
    hsame | ⟨k, -, ⟨honly, -⟩ | ⟨honly, -⟩⟩
  · exact hsame
  · cases (hanswer k).symm.trans honly.empty
  · cases (hanswer' k).symm.trans honly.empty

/-- Bystanders decide, from the 31st question on, that there is no pod of the image. -/
theorem runningDecides_bystanders {k : Nat} {outcome : Except Halt (List Pod)} (hpods : pods ≠ [])
    (h : ∀ pod ∈ pods, pod.Bystander s.images) :
    s.RunningDecides k (.ok pods) outcome ↔ outcome = .ok [] ∧ 31 ≤ k := by
  have hcollect : collect s.images pods = .ok (.ready []) :=
    (collect_sameUpTo (SameUpTo.nil_iff.mpr h)).symm
  constructor
  · intro hdecides
    cases hdecides with
    | critical nonempty collected => cases hcollect.symm.trans collected
    | ready nonempty collected enough =>
        cases hcollect.symm.trans collected
        exact ⟨rfl, enough.resolve_left fun hfound => hfound rfl⟩
    | incomplete incomplete collected => cases hcollect.symm.trans collected
  · rintro ⟨rfl, hlate⟩
    exact .ready hpods hcollect (Or.inr hlate)

/-- No pod at all decides nothing. -/
theorem not_runningDecisive_nil (k : Nat) : ¬ s.RunningDecisive k (.ok []) := by
  rintro ⟨outcome, hdecides⟩
  cases hdecides with
  | critical nonempty _ => exact nonempty rfl
  | ready nonempty _ _ => exact nonempty rfl
  | incomplete incomplete _ => exact incomplete (by simp)

/-- A search for the web in a namespace that stays empty gives up when two minutes are used up; a
failed pod of another image, there all the time, ends it after one with no pods. -/
theorem runningPodsWithImage_bystander_decides :
    let s := usual (.text "default") "" ["web:1"]
    let w := listing []
    let w' := listing [strayPod]
    let run := runningPodsWithImage s (.integer 120) usualMinWait w
    let run' := runningPodsWithImage s (.integer 120) usualMinWait w'
    (∀ k, 1 ≤ k → AnswersAlike s.images (s.answer w k) (s.answer w' k)) ∧
      (run.1 = .error s.timeout ∧ s.Took 61 122 w run.2) ∧
      run'.1 = .ok [] ∧ s.Took 31 61 w' run'.2 := by
  intro s w w' run run'
  have hwait : Budget.ofSetting (.integer 120) = .seconds (.finite 120) := by decide +kernel
  have hbudget : (Double.finite 120).value? = some ((120 : Int) : Rat) := rfl
  have hsmall : (120 : Int).natAbs ≤ Double.wholeLimit := by decide
  have hrounds : runningRounds 120 = 61 := by
    unfold runningRounds
    norm_num
  have hanswer : ∀ k, s.answer w k = .ok [] := fun _ => rfl
  have hanswer' : ∀ k, s.answer w' k = .ok [strayPod] := fun _ => rfl
  have hstray : ∀ pod ∈ [strayPod], pod.Bystander s.images :=
    List.forall_mem_singleton.mpr bystander_strayPod
  refine ⟨fun k _ => ?_, ?_, ?_⟩
  · rw [hanswer, hanswer']
    exact .pods (SameUpTo.nil_iff.mpr hstray)
  · have hrun := runningPodsWithImage_undecided (.text "default") "" ["web:1"] (w := w) hbudget
      hsmall hwait fun k _ _ => not_runningDecisive_nil k
    rw [hrounds] at hrun
    norm_num at hrun
    exact hrun
  · have hdecides : s.RunningDecides 31 (s.answer w' 31) (.ok []) :=
      (runningDecides_bystanders (by simp) hstray).mpr ⟨rfl, le_rfl⟩
    have hopen : ∀ j, 1 ≤ j → j < 31 → ¬ s.RunningDecisive j (s.answer w' j) := by
      rintro j - hlt ⟨outcome, hearly⟩
      have hlate := ((runningDecides_bystanders (by simp) hstray).mp hearly).2
      omega
    have hrun := runningPodsWithImage_decided (.text "default") "" ["web:1"] hbudget hsmall hwait
      (by omega) (by omega) hopen hdecides
    norm_num at hrun
    exact hrun

end Search

end Discovery

end PodReach
