import Mathlib.Data.List.Forall2
import PodReach.Command.Pods
import PodReach.Pod.Reading
import PodReach.Proofs.Discovery.Newest
import PodReach.Proofs.Outcome
import PodReach.Proofs.World.Quiet

/-!
# The list of the pods of a namespace

What the list shows is described from the pods that the cluster returned: they are sorted by the
code points of their names, each has the row of its place, and those that will not recover are named
again below the table. Only an interrupt on a printed text and a text that cannot be rendered cut
the list short.
-/

namespace PodReach

open Run

/-! ## Printing one thing after the other -/

/-- The texts with markup of something that is printed. -/
def Display.texts : Display → List String
  | .line text => [text]
  | .table t => t.texts
  | _ => []

/-- These things were printed after a world: all of them, or as many as it takes until a line that
someone waited for to interrupt or until one that cannot be rendered. Nothing else happened. -/
inductive Printed (shown : List Display) (w : World) : Except Halt Unit × World → Prop
  | all (rendered : ∀ d ∈ shown, ∀ text ∈ d.texts, w.markup.renders text = true) :
      Printed shown w (.ok (), w.noted (shown.map Entry.display))
  | interrupted (before : List Display) {after : List Display} {text awaited : String}
      (split : shown = before ++ .line text :: after) (waited : w.interruptOn = some awaited)
      (heard : Text.contains text awaited = true) :
      Printed shown w (.error .interrupted,
        { w.noted ((before ++ [Display.line text]).map Entry.display) with interruptOn := none })
  | unrendered (before : List Display) {after : List Display} {d : Display} {text : String}
      (split : shown = before ++ d :: after) (mem : text ∈ d.texts)
      (refused : w.markup.renders text = false) :
      Printed shown w (.error (.unrendered text), w.noted (before.map Entry.display))

namespace Printed

variable {shown : List Display} {d : Display} {w : World}

/-- What is printed and what is printed after it. -/
theorem cons {outcome : Except Halt Unit × World}
    (hrendered : ∀ text ∈ d.texts, w.markup.renders text = true)
    (h : Printed shown (w.noted [.display d]) outcome) : Printed (d :: shown) w outcome := by
  cases h with
  | all rendered =>
      rw [World.noted_noted]
      exact .all (List.forall_mem_cons.mpr ⟨hrendered, rendered⟩)
  | @interrupted before after last awaited split waited heard =>
      have hworld (entries : List Entry) :
          { (w.noted [Entry.display d]).noted entries with interruptOn := none } =
            { w.noted (Entry.display d :: entries) with interruptOn := none } := by
        rw [World.noted_noted, List.singleton_append]
      rw [hworld]
      exact .interrupted (d :: before) (by rw [split, List.cons_append]) waited heard
  | unrendered before split mem refused =>
      rw [World.noted_noted]
      exact .unrendered (d :: before) (by rw [split, List.cons_append]) mem refused

/-- One thing is printed, and then the others unless it was not. -/
theorem bind {action next : Run Unit} (h : Printed [d] w (action w))
    (hnext : ∀ v, Printed shown v (next v)) :
    Printed (d :: shown) w ((action >>= fun _ => next) w) := by
  generalize hrun : action w = outcome at h
  cases h with
  | all rendered =>
      rw [bind_of_ok hrun]
      exact (hnext _).cons (rendered d List.mem_cons_self)
  | interrupted before split waited heard =>
      rw [bind_of_error hrun]
      exact .interrupted before (congrArg (· ++ shown) split |>.trans (List.append_assoc ..)) waited
        heard
  | unrendered before split mem refused =>
      rw [bind_of_error hrun]
      exact .unrendered before (congrArg (· ++ shown) split |>.trans (List.append_assoc ..)) mem
        refused

end Printed

theorem printed_line (text : String) (w : World) :
    Printed [.line text] w (Console.line text w) := by
  rw [line_apply]
  split_ifs with hrenders hheard
  · obtain ⟨awaited, hwaited, hcontains⟩ := (Option.any_eq_true _ _).mp hheard
    exact .interrupted [] rfl hwaited hcontains
  · exact .all (by simpa [Display.texts] using hrenders)
  · rw [← World.noted_nil w]
    exact .unrendered [] rfl List.mem_cons_self (by simpa using hrenders)

theorem printed_table (t : Table) (w : World) : Printed [.table t] w (Console.table t w) := by
  unfold Console.table
  by_cases hrenders : ∀ text ∈ t.texts, w.markup.renders text = true
  · rw [bind_of_ok (Console.render_of_renders hrenders)]
    exact .all (by simpa [Display.texts] using hrenders)
  · obtain ⟨text, hmem, hrefused, hrun⟩ := Console.render_of_not_renders hrenders
    rw [bind_of_error hrun]
    exact .unrendered [] rfl hmem hrefused

theorem printed_forM (texts : List String) (w : World) :
    Printed (texts.map .line) w (texts.forM Console.line w) := by
  induction texts generalizing w with
  | nil =>
      have hnothing : ([] : List String).forM Console.line w = (.ok (), w.noted []) := by
        rw [World.noted_nil]
        rfl
      rw [hnothing]
      exact .all (by simp)
  | cons text texts ih => exact (printed_line text w).bind ih

/-! ## What is known about a pod -/

namespace Pod

/-- Everything that a list of pods shows of a pod is known: it is complete and has a name. -/
structure Listable (pod : Pod) : Prop extends pod.Complete where
  named : pod.name?.isSome

/-- The parts of a pod that can be listed. -/
theorem Listable.parts {pod : Pod} (h : pod.Listable) :
    ∃ metadata spec status name, pod = ⟨some metadata, some spec, some status⟩ ∧
      metadata.name = some name := by
  obtain ⟨⟨hmetadata, hspec, hstatus⟩, hname⟩ := h
  obtain ⟨metadata, spec, status⟩ := pod
  obtain ⟨metadata, rfl⟩ := Option.isSome_iff_exists.mp hmetadata
  obtain ⟨spec, rfl⟩ := Option.isSome_iff_exists.mp hspec
  obtain ⟨status, rfl⟩ := Option.isSome_iff_exists.mp hstatus
  obtain ⟨name, hname⟩ := Option.isSome_iff_exists.mp hname
  exact ⟨metadata, spec, status, name, rfl, hname⟩

/-- The row of a pod at a place of the list. -/
inductive Row (now : Instant) (place : Nat) : Pod → List String → Prop
  | intro {metadata : Metadata} {spec : PodSpec} {status : PodStatus} {name : String}
      (named : metadata.name = some name) :
      Row now place ⟨some metadata, some spec, some status⟩
        [toString place, name,
          s!"{(status.containers.filter (·.ready)).length}/{spec.containers.length}",
          Status.colorize (statusOf metadata (some spec) status),
          toString (status.containers.map (·.restarts)).sum, Age.since metadata.created now]

/-- The code points of the name of a pod. -/
def codePoints (pod : Pod) : List Nat :=
  (pod.name?.getD "").toList.map Char.toNat

/-- A list holds the same pods as another one in the order of their names, equal names in the order
of the other one. -/
structure SortedByName (pods sorted : List Pod) : Prop where
  perm : sorted.Perm pods
  ordered : sorted.Pairwise fun first second =>
    ¬ List.Lex (· < ·) second.codePoints first.codePoints
  stable : ∀ name, sorted.filter (·.name? == some name) = pods.filter (·.name? == some name)

/-- Whether a pod will not recover. -/
def isBroken (pod : Pod) : Bool :=
  pod.status?.any Status.isCritical

/-- What is printed about a pod that will not recover. -/
def notice (pod : Pod) : String :=
  let name := Text.orNone pod.name?
  let status := pod.status?.getD ""
  let message := s!"{name} 处于 {status}，需要人工处理"
  s!"[yellow]⚠️  主人，{message}[/yellow]"

/-- What is printed below a table of pods. -/
def notices (pods : List Pod) : List String :=
  match (pods.filter isBroken).map notice with
  | [] => []
  | first :: rest => "" :: first :: rest

theorem restartCount_eq_sum (status : PodStatus) :
    restartCount status = (status.containers.map (·.restarts)).sum := by
  rw [restartCount, List.sum_eq_foldl, List.foldl_map]

theorem row?_of_listable {pod : Pod} (h : pod.Listable) (now : Instant) (place : Nat) :
    ∃ row, row? now place pod = some row ∧ Row now place pod row := by
  obtain ⟨metadata, spec, status, name, rfl, hname⟩ := h.parts
  refine ⟨_, rfl, ?_⟩
  rw [hname, Option.getD_some, restartCount_eq_sum, readyCount, List.countP_eq_length_filter]
  exact .intro hname

/-- Every pod has the row of its place, counted from a first one. -/
theorem rows?_of_listable {pods : List Pod} (h : ∀ pod ∈ pods, pod.Listable) (now : Instant)
    (first : Nat) : ∃ rows, rows? now first pods = some rows ∧
      List.Forall₂ (fun placed row => Row now placed.2 placed.1 row) (pods.zipIdx first) rows := by
  induction pods generalizing first with
  | nil => exact ⟨[], rfl, .nil⟩
  | cons pod pods ih =>
      obtain ⟨row, hrow, hshown⟩ := row?_of_listable (h pod List.mem_cons_self) now first
      obtain ⟨rows, hrows, hrest⟩ :=
        ih (fun later hlater => h later (List.mem_cons_of_mem _ hlater)) (first + 1)
      refine ⟨row :: rows, ?_, .cons hshown hrest⟩
      rw [rows?, hrow, hrows]
      rfl

end Pod

/-! ## Sorting by name -/

namespace Command

open Pod

/-- Whether the name of one pod comes before that of another or is the same. -/
def inOrder (first second : Pod) : Bool :=
  decide (first.name?.getD "" ≤ second.name?.getD "")

theorem inOrder_trans (a b c : Pod) (hab : inOrder a b = true) (hbc : inOrder b c = true) :
    inOrder a c = true :=
  decide_eq_true (String.le_trans (of_decide_eq_true hab) (of_decide_eq_true hbc))

theorem inOrder_total (a b : Pod) : (inOrder a b || inOrder b a) = true := by
  simpa [inOrder] using String.le_total (a.name?.getD "") (b.name?.getD "")

theorem not_lex_codePoints {first second : Pod} (h : inOrder first second = true) :
    ¬ List.Lex (· < ·) second.codePoints first.codePoints := by
  have hchars : ¬ (second.name?.getD "").toList.lt (first.name?.getD "").toList := fun hlt =>
    of_decide_eq_true h (String.lt_iff.mpr hlt)
  exact List.map_le (f := Char.toNat) (fun _ _ hlt => hlt) hchars

/-- Merge sort by name is the order that is promised. -/
theorem sortedByName_mergeSort (pods : List Pod) :
    SortedByName pods (pods.mergeSort inOrder) where
  perm := List.mergeSort_perm _ _
  ordered := (List.pairwise_mergeSort inOrder_trans inOrder_total pods).imp not_lex_codePoints
  stable name := by
    -- pods of one name are in order whatever order they are in, and stay in it
    have hsame : (pods.filter (·.name? == some name)).Pairwise (inOrder · ·) := by
      rw [List.pairwise_filter]
      refine List.pairwise_of_forall fun first second hfirst hsecond => ?_
      rw [inOrder, eq_of_beq hfirst, eq_of_beq hsecond]
      exact decide_eq_true (String.le_refl name)
    have hsublist := List.sublist_mergeSort inOrder_trans inOrder_total hsame List.filter_sublist
    have hwithin := hsublist.filter (·.name? == some name)
    rw [List.filter_filter] at hwithin
    simp only [Bool.and_self] at hwithin
    have hlength := ((List.mergeSort_perm pods inOrder).filter (·.name? == some name)).length_eq
    exact (hwithin.eq_of_length hlength.symm).symm

theorem sortByName_eq {pods : List Pod} (h : ∀ pod ∈ pods, pod.Listable) :
    sortByName pods = .ok (pods.mergeSort inOrder) := by
  have hnamed : (pods.mapM fun pod => do
      let metadata ← Discovery.part pod.metadata
      pure (metadata.name, pod)) = (.ok (pods.map fun pod => (pod.name?, pod)) :
        Except Halt (List (Option String × Pod))) := by
    rw [Outcome.mapM_eq_ok_iff, List.forall₂_map_right_iff, List.forall₂_same]
    intro pod hpod
    obtain ⟨metadata, spec, status, name, rfl, -⟩ := (h pod hpod).parts
    rfl
  have hall : (pods.map fun pod => (pod.name?, pod)).any (·.1.isNone) = false := by
    rw [List.any_map, List.any_eq_false]
    intro pod hpod
    simpa [Option.isSome_iff_ne_none] using (h pod hpod).named
  have hsorted : ((pods.map fun pod => (pod.name?, pod)).mergeSort fun a b =>
      decide (a.1.getD "" ≤ b.1.getD "")).map (·.2) = pods.mergeSort inOrder := by
    rw [List.map_mergeSort (s := inOrder), List.map_map]
    · exact congrArg (List.mergeSort · inOrder) (List.map_id pods)
    · simp [inOrder]
  rw [sortByName, hnamed]
  simp only [bind, Except.bind, hall, Bool.and_false, Bool.false_eq_true, if_false, hsorted]

/-! ## The list -/

theorem showTable_apply {pods : List Pod} {rows : List (List String)} {w : World} (title : String)
    (h : rows? w.now 1 pods = some rows) :
    Pod.showTable pods title w = Console.table (table title rows) w := by
  rw [Pod.showTable, bind_of_ok (get_apply w), h, bind_of_ok (need_some rows w)]

/-- What a warning is about: the name of a pod and its status. -/
private def subject (pod : Pod) : String × String :=
  (Text.orNone pod.name?, pod.status?.getD "")

private theorem forM_subject {body : String × String → Run Unit}
    (h : ∀ pod, body (subject pod) = Console.line (notice pod)) (pods : List Pod) :
    (pods.map subject).forM body = (pods.map notice).forM Console.line := by
  induction pods with
  | nil => rfl
  | cons pod pods ih =>
      change (body (subject pod) >>= fun _ => (pods.map subject).forM body) = _
      rw [h, ih]
      rfl

/-- The warnings are the notices, printed one after the other. -/
theorem warnAboutBroken_eq {pods : List Pod} (h : ∀ pod ∈ pods, pod.Listable) (w : World) :
    warnAboutBroken pods w = (notices pods).forM Console.line w := by
  have hsubjects : (pods.mapM fun pod => do
      let status ← pod.status?
      some (Text.orNone pod.name?, status)) = some (pods.map subject) := by
    rw [Outcome.mapM_eq_some_iff, List.forall₂_map_right_iff, List.forall₂_same]
    intro pod hpod
    obtain ⟨status, hstatus⟩ := (h pod hpod).status?_isSome
    simp [subject, hstatus]
  rw [warnAboutBroken, hsubjects, bind_of_ok (need_some _ w), List.filter_map,
    List.filter_congr (q := isBroken) ?_, notices]
  · cases pods.filter isBroken with
    | nil => rfl
    | cons first rest =>
        rw [forM_subject fun _ => rfl]
        rfl
  · intro pod hpod
    obtain ⟨status, hstatus⟩ := (h pod hpod).status?_isSome
    simp [subject, isBroken, hstatus]

/-- What happens before the pods of a namespace are shown: they are asked for. -/
def askForPods (ns : Yaml) (labels : String) (deployment : Option String) : Run (List Pod) := do
  let shown := ns.shown
  Console.info s!"正在获取 {shown} 命名空间的 Pods..."
  Console.line ""
  match Text.nonempty deployment with
  | some name => Setup.deploymentPods name ns
  | none => Cluster.listPods ns labels

theorem listPodsOf_eq (ns : Yaml) (labels : String) (deployment : Option String) (w : World) :
    listPodsOf ns labels deployment w = (do
      let pods ← askForPods (ns.orElse w.cluster.ns) labels deployment
      if pods.isEmpty then Console.warning "当前命名空间下没有任何 Pod"
      else
        let sorted ← MonadExcept.ofExcept (sortByName pods)
        Pod.showTable sorted s!"Pods ({(ns.orElse w.cluster.ns).shown})"
        warnAboutBroken sorted : Run Unit) w := by
  have hns : Setup.nsOr ns w = (.ok (ns.orElse w.cluster.ns), w) := rfl
  unfold listPodsOf askForPods
  rw [bind_of_ok hns]
  cases Text.nonempty deployment <;> simp only [bind_assoc]

/-- A list of pods shows each pod that the cluster returned once, in the order of their names, with
the row of its place, and then a notice for each of them that will not recover, in the same order,
as far as these texts can be rendered. How often a container was restarted is what its status says;
a status that does not say counts none. -/
theorem listPodsOf_shows {ns : Yaml} {labels : String} {deployment : Option String} {w v : World}
    {pods : List Pod}
    (hasked : askForPods (ns.orElse w.cluster.ns) labels deployment w = (.ok pods, v))
    (hsome : pods ≠ []) (hlistable : ∀ pod ∈ pods, pod.Listable) :
    ∃ sorted rows, SortedByName pods sorted ∧
      List.Forall₂ (fun placed row => Row v.now placed.2 placed.1 row) (sorted.zipIdx 1) rows ∧
      Printed (.table (table s!"Pods ({(ns.orElse w.cluster.ns).shown})" rows) ::
          (notices sorted).map .line) v (listPodsOf ns labels deployment w) ∧
      ∀ json status, readContainerStatus json = .ok status →
        status.restarts = (readCount? (json.part "restartCount")).getD 0 := by
  have hsorted := sortedByName_mergeSort pods
  have hkept : ∀ pod ∈ pods.mergeSort inOrder, pod.Listable := fun pod hpod =>
    hlistable pod (hsorted.perm.mem_iff.mp hpod)
  obtain ⟨rows, hrows, hplaced⟩ := rows?_of_listable hkept v.now 1
  have hnonempty : pods.isEmpty = false := by simpa using hsome
  refine ⟨_, rows, hsorted, hplaced, ?_, ?_⟩
  · rw [listPodsOf_eq, bind_of_ok hasked, hnonempty, if_neg (by decide), sortByName_eq hlistable,
      bind_of_ok (ofExcept_apply _ v)]
    refine Printed.bind ?_ fun v' => ?_
    · rw [showTable_apply _ hrows]
      exact printed_table _ v
    · rw [warnAboutBroken_eq hkept]
      exact printed_forM _ v'
  · intro json status hread
    obtain ⟨state, -, hstatus⟩ := Outcome.bind_eq_ok_iff.mp hread
    rw [← Except.ok.inj hstatus]

/-- Two of three pods have the same name, and one of these has crashed: the pods come in the order
of their names, the two of one name as they were listed, and there is one notice. -/
theorem listPodsOf_shows_twins :
    let pod (name reason : String) (restarts : Int) : Pod :=
      { metadata := some ⟨some name, some "default", [], none, false⟩
        spec := some ⟨[⟨some "main", some "app:v1", false, false⟩], 0⟩
        status := some ⟨some reason, none, [⟨true, restarts, none⟩], []⟩ }
    let web := pod "web" "Running" 0
    let crashed := pod "api" "Error" 7
    let api := pod "api" "Running" 1
    let pods := [web, crashed, api]
    let w : World := { World.empty with
      cluster := { Cluster.empty with listAnswers := fun _ => .ok pods } }
    let asked := askForPods (Yaml.null.orElse w.cluster.ns) "" none w
    asked.1 = .ok pods ∧ (∀ pod ∈ pods, pod.Listable) ∧
      ∃ sorted rows, SortedByName pods sorted ∧
        sorted.filter (·.name? == some "api") = [crashed, api] ∧
        listPodsOf .null "" none w = (.ok (), asked.2.noted
          ((.table (table s!"Pods ({(Yaml.null.orElse w.cluster.ns).shown})" rows) ::
            (notices sorted).map .line).map Entry.display)) := by
  intro pod web crashed api pods w asked
  have hasked : asked.1 = .ok pods := by decide +kernel
  have hlistable : ∀ pod ∈ pods, pod.Listable := by
    intro pod hpod
    obtain rfl | rfl | rfl : pod = web ∨ pod = crashed ∨ pod = api := by simpa [pods] using hpod
    all_goals exact ⟨⟨rfl, rfl, rfl⟩, rfl⟩
  obtain ⟨sorted, rows, hsorted, -, hprinted, -⟩ :=
    listPodsOf_shows (w := w) (Prod.ext hasked rfl) (List.cons_ne_nil _ _) hlistable
  refine ⟨hasked, hlistable, sorted, rows, hsorted, (hsorted.stable "api").trans ?_, ?_⟩
  · decide +kernel
  · -- nobody waits to interrupt, and the console renders everything
    have hcalm : asked.2.interruptOn = none := by decide +kernel
    have hlenient (text : String) : asked.2.markup.renders text = true := rfl
    generalize listPodsOf .null "" none w = outcome at hprinted ⊢
    cases hprinted with
    | all => rfl
    | interrupted _ _ waited => exact absurd (waited.symm.trans hcalm) (by simp)
    | unrendered _ _ _ refused => exact absurd (refused.symm.trans (hlenient _)) (by simp)

end Command
end PodReach
