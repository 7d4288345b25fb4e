import PodReach.Proofs.World.Quiet
import PodReach.Session.Attach
import PodReach.Session.LogLines

/-!
# How a run conducts itself

What matters to the cluster, and to whoever reads the console, is which calls a run makes, what it
does when one of them is refused, and whether it reports an error. A run is in good conduct as long
as it asks only about its own namespace and every refusal so far is one that it may pass over. A
refusal that may not be passed over is the last thing that happens: the run makes no further call
and ends with a halt that tells of the refusal.
-/

namespace PodReach

open Run

/-! ## Refusals -/

namespace Call

/-- Refusals that a run may pass over after some calls: that an object does not exist when this is
the question, that it exists when it was to be created, that a service account cannot be read, that
a tunnel cannot be opened, and whatever comes of looking for the pod afterwards. -/
def Tolerates (before : List Call) : Call → Fault → Prop
  | readNamespace _, .api status _ => status = 404
  | readBinding _, .api status _ => status = 404
  | createNamespace _, .api status _ => status = 409
  | createBinding _, .api status _ => status = 409
  | readServiceAccount _ _, .api _ _ => True
  | openPortForward _ _ _, _ => True
  | readPod _ _, _ => ∃ call ∈ before, call.service? = some .openPortForward
  | _, _ => False

/-- The halts that tell of a refusal. What a session or a log cannot be opened for becomes an
expected failure; any other refusal is told as it is. -/
def Tells : Call → Fault → Halt → Prop
  | openStream _ _ _ _ _, fault, halt =>
    if Session.expectedOnOpen fault then
      ∃ pod container, halt = .failed (.cannotConnect pod container fault.detail)
    else halt = .fault fault
  | readLog _ _ _ _ _, fault, halt => halt = Session.logHalt fault
  | _, fault, halt => halt = .fault fault

theorem not_tells_interrupted {call : Call} {fault : Fault} : ¬ call.Tells fault .interrupted := by
  intro h
  cases call with
  | openStream pod ns container command tty =>
      rw [Tells] at h
      split at h
      · obtain ⟨_, _, h⟩ := h
        cases h
      · cases h
  | readLog pod ns container follow tail => cases fault <;> cases h
  | _ => cases h

end Call

/-! ## Good conduct -/

/-- What a run may ask about: one namespace, and tunnels if it is to open any. -/
structure Scope where
  ns : Yaml
  tunnels : Bool

/-- Whether a call stays within a scope. -/
structure Scope.Allows (scope : Scope) (call : Call) : Prop where
  ns : ∀ ns, call.ns? = some ns → ns = scope.ns
  tunnels : call.service? = some .openPortForward → scope.tunnels = true

namespace Scope

variable {scope : Scope} {call : Call} {ns : Yaml}

theorem allows_of_ns (hcall : call.ns? = some ns) (hns : ns = scope.ns)
    (htunnel : call.service? ≠ some .openPortForward) : scope.Allows call :=
  ⟨fun _ hnamed => (Option.some.inj (hnamed.symm.trans hcall)).trans hns,
    fun h => absurd h htunnel⟩

theorem allows_of_none (hcall : call.ns? = none)
    (htunnel : call.service? ≠ some .openPortForward) : scope.Allows call :=
  ⟨fun _ hnamed => absurd (hnamed.symm.trans hcall) nofun, fun h => absurd h htunnel⟩

end Scope

namespace World

variable {scope : Scope} {w₀ w w' : World} {halt? : Option Halt} {call : Call}

theorem grew_called (w : World) (call : Call) : w.Grew (w.called call) :=
  ⟨[.call call], (journal_noted w _).symm⟩

theorem callsSince_append {entries : List Entry} (hgrown : w₀.Grew w)
    (h : w'.journal.toList = w.journal.toList ++ entries) :
    callsSince w₀ w' = callsSince w₀ w ++ entries.filterMap Entry.clusterCall? := by
  rw [callsSince, entriesSince_append hgrown h, List.filterMap_append]
  rfl

/-- Between two worlds the cluster was not asked. -/
def Uncalled (w w' : World) : Prop :=
  ∃ entries, w'.journal.toList = w.journal.toList ++ entries ∧
    entries.filterMap Entry.clusterCall? = []

theorem Uncalled.grew (h : Uncalled w w') : w.Grew w' := by
  obtain ⟨entries, hjournal, -⟩ := h
  exact ⟨entries, hjournal.symm⟩

theorem Uncalled.refl (w : World) : Uncalled w w :=
  ⟨[], by simp, rfl⟩

theorem Uncalled.trans (h : Uncalled w₀ w) (h' : Uncalled w w') : Uncalled w₀ w' := by
  obtain ⟨first, hfirst, hnone⟩ := h
  obtain ⟨second, hsecond, hnone'⟩ := h'
  refine ⟨first ++ second, by rw [hsecond, hfirst, List.append_assoc], ?_⟩
  rw [List.filterMap_append, hnone, hnone', List.append_nil]

theorem Uncalled.callsSince_eq_nil (h : Uncalled w w') : callsSince w w' = [] := by
  obtain ⟨entries, hjournal, hnone⟩ := h
  rw [callsSince, entriesSince_eq hjournal, hnone]

theorem uncalled_noted {entry : Entry} (w : World) (h : entry.clusterCall? = none) :
    Uncalled w (w.noted [entry]) :=
  ⟨[entry], journal_noted w _, by simp [h]⟩

theorem Quiet.uncalled (h : Quiet w w') : Uncalled w w' := by
  obtain ⟨entries, hjournal, hentries⟩ := h.written
  refine ⟨entries, hjournal, List.filterMap_eq_nil_iff.mpr fun entry hentry => ?_⟩
  have hq := hentries entry hentry
  simp only [Entry.isQuiet, Bool.and_eq_true, Option.isNone_iff_eq_none] at hq
  exact hq.1

/-- What is done afterwards without asking adds no call. -/
theorem callsSince_uncalled (hgrown : w₀.Grew w) (h : Uncalled w w') :
    callsSince w₀ w' = callsSince w₀ w := by
  obtain ⟨entries, hjournal, hnone⟩ := h
  rw [callsSince_append hgrown hjournal, hnone, List.append_nil]

/-- What is done beforehand without asking adds no call. -/
theorem callsSince_of_uncalled (h : Uncalled w₀ w) (hgrown : w.Grew w') :
    callsSince w₀ w' = callsSince w w' := by
  obtain ⟨later, hlater⟩ := hgrown
  rw [callsSince_append h.grew hlater.symm, h.callsSince_eq_nil, callsSince,
    entriesSince_eq hlater.symm, List.nil_append]

theorem callsSince_quiet (hgrown : w₀.Grew w) (hquiet : Quiet w w') :
    callsSince w₀ w' = callsSince w₀ w :=
  callsSince_uncalled hgrown hquiet.uncalled

theorem callsSince_called (hgrown : w₀.Grew w) (hservice : call.service?.isSome = true) :
    callsSince w₀ (w.called call) = callsSince w₀ w ++ [call] := by
  have hjournal : (w.called call).journal.toList = w.journal.toList ++ [.call call] :=
    journal_noted w _
  rw [callsSince_append hgrown hjournal]
  simp [Entry.clusterCall?, hservice]

/-- How a run that began in `w₀` has conducted itself so far, given the halt that it ends with, if
it ends here. -/
structure Conduct (scope : Scope) (w₀ : World) (halt? : Option Halt) (w : World) : Prop where
  grew : w₀.Grew w
  cluster : w.cluster = w₀.cluster.afterAll (callsSince w₀ w)
  allowed : ∀ call ∈ callsSince w₀ w, scope.Allows call
  refusals : ∀ before call later fault, callsSince w₀ w = before ++ call :: later →
    (w₀.cluster.afterAll before).refusal? call = some fault →
    Call.Tolerates before call fault ∨
      later = [] ∧ ∃ halt, halt? = some halt ∧ call.Tells fault halt
  unreported : ∀ entry ∈ entriesSince w₀ w, entry.isReport = false
  alarm : SameAlarm w₀ w
  markup : w.markup = w₀.markup

namespace Conduct

/-- A run that has not begun. -/
theorem start (scope : Scope) (w : World) : Conduct scope w none w := by
  have hentries : entriesSince w w = [] := entriesSince_eq (List.append_nil _).symm
  have hcalls : callsSince w w = [] := (Uncalled.refl w).callsSince_eq_nil
  refine ⟨List.prefix_rfl, ?_, ?_, ?_, ?_, Or.inl rfl, rfl⟩
  · rw [hcalls]
    rfl
  · simp [hcalls]
  · simp [hcalls]
  · simp [hentries]

/-- A run in good conduct may end in any way. -/
theorem ends (h : Conduct scope w₀ none w) (halt? : Option Halt) : Conduct scope w₀ halt? w where
  grew := h.grew
  cluster := h.cluster
  allowed := h.allowed
  refusals := fun before call later fault hsplit hrefused =>
    Or.inl ((h.refusals before call later fault hsplit hrefused).resolve_right (by simp))
  unreported := h.unreported
  alarm := h.alarm
  markup := h.markup

/-- An interrupt tells of no refusal. -/
theorem of_interrupted (h : Conduct scope w₀ (some .interrupted) w) :
    Conduct scope w₀ none w where
  grew := h.grew
  cluster := h.cluster
  allowed := h.allowed
  refusals := by
    intro before call later fault hsplit hrefused
    refine Or.inl ((h.refusals before call later fault hsplit hrefused).resolve_right ?_)
    rintro ⟨-, halt, hhalt, htells⟩
    cases hhalt
    exact Call.not_tells_interrupted htells
  unreported := h.unreported
  alarm := h.alarm
  markup := h.markup

/-- A run that may open tunnels may do more. -/
theorem widen {ns : Yaml} (h : Conduct ⟨ns, false⟩ w₀ halt? w) (tunnels : Bool) :
    Conduct ⟨ns, tunnels⟩ w₀ halt? w where
  grew := h.grew
  cluster := h.cluster
  allowed := fun call hcall =>
    ⟨(h.allowed call hcall).ns,
      fun htunnel => absurd ((h.allowed call hcall).tunnels htunnel) nofun⟩
  refusals := h.refusals
  unreported := h.unreported
  alarm := h.alarm
  markup := h.markup

/-- It is the same cluster throughout. -/
theorem continues (h : Conduct scope w₀ halt? w) : w₀.cluster.Continues w.cluster := by
  have hall : ∀ (cluster : Cluster) (calls : List Call),
      cluster.Continues (cluster.afterAll calls) := by
    intro cluster calls
    induction calls generalizing cluster with
    | nil => exact .refl cluster
    | cons call calls ih =>
        have hcall : cluster.Continues (cluster.after call) :=
          continues_ask call (World.empty.withCluster cluster)
        exact hcall.trans (ih (cluster.after call))
  rw [h.cluster]
  exact hall w₀.cluster (callsSince w₀ w)

/-- The namespace of the client does not change. -/
theorem ns_eq (h : Conduct scope w₀ halt? w) : w.cluster.ns = w₀.cluster.ns :=
  h.continues.ns

/-- What is quiet makes no difference. -/
theorem quiet (h : Conduct scope w₀ halt? w) (hquiet : Quiet w w') :
    Conduct scope w₀ halt? w' := by
  obtain ⟨entries, hjournal, hentries⟩ := hquiet.written
  have hcalls := callsSince_quiet h.grew hquiet
  refine ⟨?_, ?_, ?_, ?_, ?_, h.alarm.trans hquiet.alarm, hquiet.markup.trans h.markup⟩
  · exact h.grew.trans ⟨entries, hjournal.symm⟩
  · rw [hquiet.cluster, hcalls]
    exact h.cluster
  · rw [hcalls]
    exact h.allowed
  · rw [hcalls]
    exact h.refusals
  · intro entry hentry
    rw [entriesSince_append h.grew hjournal] at hentry
    rcases List.mem_append.mp hentry with hmem | hmem
    · exact h.unreported entry hmem
    · have hq := hentries entry hmem
      simp only [Entry.isQuiet, Bool.and_eq_true, Bool.not_eq_true'] at hq
      exact hq.2

/-- A call that stays within the scope is in good conduct if its refusal may be passed over or is
told by the halt that the run ends with. -/
theorem called (h : Conduct scope w₀ none w) (hservice : call.service?.isSome = true)
    (hallowed : scope.Allows call)
    (hrefused : ∀ fault, w.cluster.refusal? call = some fault →
      Call.Tolerates (callsSince w₀ w) call fault ∨
        ∃ halt, halt? = some halt ∧ call.Tells fault halt) :
    Conduct scope w₀ halt? (w.called call) := by
  have hjournal : (w.called call).journal.toList = w.journal.toList ++ [.call call] :=
    journal_noted w _
  have hcalls := callsSince_called h.grew hservice
  refine ⟨?_, ?_, ?_, ?_, ?_, h.alarm, h.markup⟩
  · exact h.grew.trans (grew_called w call)
  · rw [hcalls, Cluster.afterAll_concat, ← h.cluster]
    rfl
  · intro call' hcall'
    rw [hcalls] at hcall'
    rcases List.mem_append.mp hcall' with hmem | hmem
    · exact h.allowed call' hmem
    · rw [List.mem_singleton.mp hmem]
      exact hallowed
  · intro before call' later fault hsplit hfault
    rw [hcalls] at hsplit
    rcases List.eq_nil_or_concat later with rfl | ⟨later', last, rfl⟩
    · obtain ⟨rfl, hcall⟩ := List.append_inj' hsplit rfl
      obtain rfl : call = call' := by simpa using hcall
      rw [← h.cluster] at hfault
      exact (hrefused fault hfault).imp id fun htold => ⟨rfl, htold⟩
    · have hsplit' : callsSince w₀ w ++ [call] = (before ++ call' :: later') ++ [last] := by
        simpa using hsplit
      obtain ⟨hearlier, -⟩ := List.append_inj' hsplit' rfl
      exact Or.inl ((h.refusals before call' later' fault hearlier hfault).resolve_right (by simp))
  · intro entry hentry
    rw [entriesSince_append h.grew hjournal] at hentry
    rcases List.mem_append.mp hentry with hmem | hmem
    · exact h.unreported entry hmem
    · rw [List.mem_singleton.mp hmem]
      rfl

end Conduct

end World

/-! ## Actions in good conduct -/

section Leads

open World

variable {α β : Type} {scope : Scope} {w₀ w : World} {Q Q' : α → World → Prop}
  {R : β → World → Prop} {action : Run α} {next : α → Run β} {call : Call}

/-- What came of an action is in good conduct, and its result has a property. -/
def Leads (scope : Scope) (w₀ : World) (Q : α → World → Prop) : Except Halt α × World → Prop
  | (.ok a, w) => Conduct scope w₀ none w ∧ Q a w
  | (.error halt, w) => Conduct scope w₀ (some halt) w

/-- The halt that an outcome is, if it is one. -/
def haltOf : Except Halt α → Option Halt
  | .ok _ => none
  | .error halt => some halt

theorem Leads.conduct {run : Except Halt α × World} (h : Leads scope w₀ Q run) :
    Conduct scope w₀ (haltOf run.1) run.2 := by
  rcases run with ⟨halt | a, w'⟩
  · exact h
  · exact h.1

/-- Nothing more is known about a result. -/
abbrev Anything (_ : α) (_ : World) : Prop := True

theorem leads_pure {a : α} (h : Conduct scope w₀ none w) (hresult : Q a w) :
    Leads scope w₀ Q ((pure a : Run α) w) :=
  ⟨h, hresult⟩

/-- Nothing that was found has every property. -/
theorem leads_none {P : α → World → Prop} (h : Conduct scope w₀ none w) :
    Leads scope w₀ (fun found w' => ∀ a, found = some a → P a w')
      ((pure none : Run (Option α)) w) := by
  refine leads_pure h fun a hnone => ?_
  cases hnone

/-- What was found has the properties that it is known to have. -/
theorem leads_some {P : α → World → Prop} {found : α} (h : Conduct scope w₀ none w)
    (hfound : P found w) :
    Leads scope w₀ (fun found w' => ∀ a, found = some a → P a w')
      ((pure (some found) : Run (Option α)) w) := by
  refine leads_pure h fun a hsome => ?_
  cases hsome
  exact hfound

theorem leads_throw (halt : Halt) (h : Conduct scope w₀ none w) :
    Leads scope w₀ Q ((throw halt : Run α) w) :=
  h.ends _

theorem leads_get (h : Conduct scope w₀ none w) :
    Leads scope w₀ (fun v w' => v = w ∧ w' = w) ((get : Run World) w) :=
  ⟨h, rfl, rfl⟩

theorem Leads.mono {run : Except Halt α × World} (h : Leads scope w₀ Q run)
    (himp : ∀ a w', Conduct scope w₀ none w' → Q a w' → Q' a w') : Leads scope w₀ Q' run := by
  rcases run with ⟨halt | a, w'⟩
  · exact h
  · exact ⟨h.1, himp a w' h.1 h.2⟩

theorem Leads.anything {run : Except Halt α × World} (h : Leads scope w₀ Q run) :
    Leads scope w₀ Anything run :=
  h.mono fun _ _ _ _ => trivial

/-- A run that ended well did so in good conduct. -/
theorem Leads.of_run {a : α} {w' : World} (h : Leads scope w₀ Q (action w))
    (hrun : action w = (.ok a, w')) : Conduct scope w₀ none w' ∧ Q a w' := by
  rw [hrun] at h
  exact h

theorem Leads.bind (h : Leads scope w₀ Q (action w))
    (hnext : ∀ a w', Conduct scope w₀ none w' → Q a w' → Leads scope w₀ R (next a w')) :
    Leads scope w₀ R ((action >>= next) w) := by
  rw [bind_apply]
  rcases hrun : action w with ⟨halt | a, w'⟩ <;> rw [hrun] at h
  · exact h
  · exact hnext a w' h.1 h.2

theorem leads_ite {c : Prop} [Decidable c] {yes no : Run α}
    (hyes : Leads scope w₀ Q (yes w)) (hno : Leads scope w₀ Q (no w)) :
    Leads scope w₀ Q ((if c then yes else no) w) := by
  split
  · exact hyes
  · exact hno

/-- A halt is taken as a value when there is something to do about it. -/
theorem Leads.attempt_bind {next : Except Halt α → Run β} (h : Leads scope w₀ Q (action w))
    (hok : ∀ a w', Conduct scope w₀ none w' → Q a w' → Leads scope w₀ R (next (.ok a) w'))
    (herror : ∀ halt w', Conduct scope w₀ (some halt) w' →
      Leads scope w₀ R (next (.error halt) w')) :
    Leads scope w₀ R ((attempt action >>= next) w) := by
  rw [bind_of_ok (attempt_apply action w)]
  rcases hrun : action w with ⟨halt | a, w'⟩ <;> rw [hrun] at h
  · exact herror halt w' h
  · exact hok a w' h.1 h.2

/-- A quiet action is in good conduct. -/
theorem leads_quiet (hquiet : Keeps Quiet action) (h : Conduct scope w₀ none w) :
    Leads scope w₀ (fun a w' => action w = (.ok a, w')) (action w) := by
  have hw := hquiet w
  rcases haction : action w with ⟨halt | a, w'⟩ <;> rw [haction] at hw
  · exact (h.quiet hw).ends _
  · exact ⟨h.quiet hw, rfl⟩

/-- A quiet action may come first. -/
theorem leads_when {c : Prop} [Decidable c] {first : Run PUnit} {next : PUnit → Run β}
    (hquiet : Keeps Quiet first) (h : Conduct scope w₀ none w)
    (hnext : ∀ w', Conduct scope w₀ none w' → Leads scope w₀ R (next ⟨⟩ w')) :
    Leads scope w₀ R ((if c then first >>= next else next ⟨⟩) w) :=
  leads_ite ((leads_quiet hquiet h).bind fun _ w' h' _ => hnext w' h') (hnext w h)

/-- How a call can be answered, and how a run may go on then, given the calls before it. -/
inductive Answered (scope : Scope) (w₀ : World) (before : List Call) (call : Call) :
    Except Halt α × World → Prop
  /-- There is a result. -/
  | done {a : α} {w : World} (conduct : Conduct scope w₀ none w) :
      Answered scope w₀ before call (.ok a, w)
  /-- The call is refused. The run has to tell, unless it may pass over the refusal. -/
  | refused {fault : Fault} {w : World}
      (told : ∀ halt, call.Tells fault halt → Conduct scope w₀ (some halt) w)
      (tolerated : call.Tolerates before fault → Conduct scope w₀ none w) :
      Answered scope w₀ before call (.error (.fault fault), w)
  /-- The call made no sense. -/
  | spoiled {halt : Halt} {w : World} (unrefused : ∀ fault, halt ≠ .fault fault)
      (conduct : Conduct scope w₀ none w) : Answered scope w₀ before call (.error halt, w)

theorem answered_of_isCall (hcall : IsCall call action) (hservice : call.service?.isSome = true)
    (hallowed : scope.Allows call) (h : Conduct scope w₀ none w) :
    Answered scope w₀ (callsSince w₀ w) call (action w) := by
  have hworld := hcall.world w
  have hrefused := hcall.refused w
  rcases haction : action w with ⟨halt | a, w'⟩ <;> rw [haction] at hworld hrefused <;>
    obtain rfl : w' = w.called call := hworld
  · by_cases hfault : ∃ fault, halt = .fault fault
    · obtain ⟨fault, rfl⟩ := hfault
      have hanswer := (hrefused fault).mp rfl
      constructor
      · intro halt htells
        refine h.called hservice hallowed fun fault' hfault' => Or.inr ⟨halt, rfl, ?_⟩
        cases hanswer.symm.trans hfault'
        exact htells
      · intro htolerates
        refine h.called hservice hallowed fun fault' hfault' => Or.inl ?_
        cases hanswer.symm.trans hfault'
        exact htolerates
    · refine .spoiled (fun fault hhalt => hfault ⟨fault, hhalt⟩) ?_
      refine h.called hservice hallowed fun fault hanswer => absurd ⟨fault, ?_⟩ hfault
      exact Except.error.inj ((hrefused fault).mpr hanswer)
  · refine .done (h.called hservice hallowed fun fault hanswer => ?_)
    cases (hrefused fault).mpr hanswer

/-- A call within the scope is in good conduct if every refusal of it is told as it is. -/
theorem leads_call (hcall : IsCall call action) (hservice : call.service?.isSome = true)
    (hallowed : scope.Allows call) (htells : ∀ fault, call.Tells fault (.fault fault))
    (h : Conduct scope w₀ none w) :
    Leads scope w₀ (fun a w' => action w = (.ok a, w')) (action w) := by
  have hanswered := answered_of_isCall hcall hservice hallowed h
  generalize action w = run at hanswered ⊢
  cases hanswered with
  | done conduct => exact ⟨conduct, rfl⟩
  | refused told tolerated => exact told _ (htells _)
  | spoiled unrefused conduct => exact conduct.ends _

/-! ## Asking for pods -/

namespace Cluster

variable {ns : Yaml}

theorem leads_listPods (hns : ns = scope.ns) (labels : String) (h : Conduct scope w₀ none w) :
    Leads scope w₀ (fun pods _ => ∀ pod ∈ pods, liesIn scope.ns pod = true)
      (listPods ns labels w) := by
  refine (leads_call (isCall_listPods labels) rfl (Scope.allows_of_ns rfl hns nofun)
    (fun _ => rfl) h).mono fun pods w' _ hlisted pod hpod => ?_
  obtain ⟨all, rfl⟩ := listPods_eq_ok hlisted
  have hselected := (List.mem_filter.mp hpod).2
  simp only [selects, Bool.and_eq_true] at hselected
  exact hns ▸ hselected.1

theorem leads_readPod (hns : ns = scope.ns) (name : Option String) (h : Conduct scope w₀ none w) :
    Leads scope w₀ (fun pod _ => liesIn scope.ns pod = true) (readPod name ns w) := by
  refine (leads_call (isCall_readPod name) rfl (Scope.allows_of_ns rfl hns nofun)
    (fun _ => rfl) h).mono fun pod w' _ hread => ?_
  have hfound := List.find?_some (readPod_eq_ok hread).2
  simp only [Bool.and_eq_true] at hfound
  exact hns ▸ hfound.2

end Cluster

end Leads

end PodReach
