import Mathlib.Data.List.Basic
import Mathlib.Tactic.SplitIfs
import PodReach.Yaml.Reader

/-!
# Every key once

Setting an entry keeps the keys of a mapping apart, and a mapping that is read comes about in no
other way. So no key of it is the same as a later one. That is an invariant of what is known about
the nodes while values are assembled, and each step keeps it.
-/

namespace PodReach.Yaml

variable {α β : Type}

/-! ## Setting an entry -/

/-- No key is the same as a later one. -/
def Apart (entries : List (Yaml × α)) : Prop :=
  entries.Pairwise fun a b => same a.1 b.1 = false

theorem apart_iff_keys {entries : List (Yaml × α)} :
    Apart entries ↔ (entries.map (·.1)).Pairwise fun a b => same a b = false := by
  rw [Apart, List.pairwise_map]

variable {key : Yaml} {value : α} {entries : List (Yaml × α)}

/-- A key that is there keeps its place, and one that is not comes last. -/
theorem keys_setEntry : (setEntry key value entries).map (·.1) =
    entries.map (·.1) ++ if entries.any fun entry => same entry.1 key then [] else [key] := by
  induction entries with
  | nil => rfl
  | cons entry rest ih =>
      obtain ⟨k, old⟩ := entry
      by_cases hsame : same k key = true
      · simp [setEntry, hsame]
      · have hother : same k key = false := eq_false_of_ne_true hsame
        simp only [setEntry, hother, List.any_cons, Bool.false_or, List.map_cons, List.cons_append]
        exact congrArg (k :: ·) ih

theorem Apart.setEntry (h : Apart entries) : Apart (setEntry key value entries) := by
  rw [apart_iff_keys, keys_setEntry]
  split_ifs with hany
  · rwa [List.append_nil, ← apart_iff_keys]
  · rw [List.pairwise_append]
    refine ⟨apart_iff_keys.mp h, List.pairwise_singleton _ _, ?_⟩
    simp only [List.any_eq_true, not_exists, not_and, Bool.not_eq_true] at hany
    simpa using hany

/-- A key of a mapping in which an entry was set was there before, or is that of the entry. -/
theorem key_of_mem_setEntry {entry : Yaml × α} (h : entry ∈ setEntry key value entries) :
    entry.1 ∈ entries.map (·.1) ∨ entry.1 = key := by
  have hkey : entry.1 ∈ (setEntry key value entries).map (·.1) := List.mem_map_of_mem h
  rw [keys_setEntry] at hkey
  split_ifs at hkey
  · exact Or.inl (by simpa using hkey)
  · simpa using hkey

/-- An entry with another key stays. -/
theorem mem_setEntry_of_mem {entry : Yaml × α} (h : entry ∈ entries)
    (hother : same entry.1 key = false) : entry ∈ setEntry key value entries := by
  induction entries with
  | nil => cases h
  | cons first rest ih =>
      rcases List.mem_cons.mp h with rfl | hrest
      · simp [setEntry, hother]
      · by_cases hsame : same first.1 key = true
        · simp [setEntry, hsame, hrest]
        · simp [setEntry, hsame, ih hrest]

/-- An entry is set under its key, unless another key is taken for the same. -/
theorem mem_setEntry_self (h : ∀ entry ∈ entries, same entry.1 key = true → entry.1 = key) :
    (key, value) ∈ setEntry key value entries := by
  induction entries with
  | nil => simp [setEntry]
  | cons first rest ih =>
      by_cases hsame : same first.1 key = true
      · obtain rfl := h first List.mem_cons_self hsame
        simp [setEntry, hsame]
      · simp [setEntry, hsame, ih fun entry hentry => h entry (List.mem_cons_of_mem _ hentry)]

theorem eq_text_of_same {key : Yaml} {name : String} (h : same key (.text name) = true) :
    key = .text name := by
  cases key <;> simp_all [same]

theorem eq_null_of_same {key : Yaml} (h : same key .null = true) : key = .null := by
  cases key <;> simp_all [same]

theorem eq_text_of_text_same {key : Yaml} {name : String} (h : same (.text name) key = true) :
    key = .text name := by
  cases key <;> simp_all [same]

/-- Different texts are not taken for each other. -/
theorem apart_of_texts (htexts : ∀ entry ∈ entries, ∃ name, entry.1 = .text name)
    (hnodup : (entries.map (·.1)).Nodup) : Apart entries := by
  rw [List.Nodup, List.pairwise_map] at hnodup
  refine hnodup.imp_of_mem fun {a b} _ hb hne => eq_false_of_ne_true fun hsame => hne ?_
  obtain ⟨name, hname⟩ := htexts b hb
  rw [hname] at hsame ⊢
  exact eq_text_of_same hsame

/-- Mappings with the same keys in the same places are the same if one has the entries of the
other. -/
theorem eq_of_keys_eq {others : List (Yaml × α)} (hkeys : entries.map (·.1) = others.map (·.1))
    (hnodup : (entries.map (·.1)).Nodup) (hsub : ∀ entry ∈ entries, entry ∈ others) :
    entries = others := by
  induction entries generalizing others with
  | nil => exact (List.map_eq_nil_iff.mp hkeys.symm).symm
  | cons entry rest ih =>
      obtain ⟨other, others, rfl⟩ : ∃ other later, others = other :: later :=
        List.exists_cons_of_ne_nil fun h => by simp [h] at hkeys
      obtain ⟨hkey, hlater⟩ := List.cons.inj hkeys
      obtain ⟨hnew, hrest⟩ := List.nodup_cons.mp hnodup
      have hsame : entry = other := by
        refine (List.mem_cons.mp (hsub entry List.mem_cons_self)).resolve_right fun hmem => hnew ?_
        exact hlater ▸ List.mem_map_of_mem hmem
      refine congrArg₂ List.cons hsame (ih hlater hrest fun later hmem => ?_)
      have hlisted := List.mem_cons.mp (hsub later (List.mem_cons_of_mem _ hmem))
      exact hlisted.resolve_left fun heq => hnew (hkey ▸ heq ▸ List.mem_map_of_mem hmem)

/-! ## Scalars -/

/-- Whether a value is a mapping. -/
def isMap : Yaml → Bool
  | .map _ => true
  | _ => false

theorem Timestamp.isMap_of_value? {parts : Timestamp} {value : Yaml}
    (h : parts.value? = some value) : value.isMap = false := by
  unfold value? at h
  split at h
  · split_ifs at h
    cases h
    rfl
  · dsimp only at h
    split_ifs at h
    cases h
    rfl

theorem isMap_of_timestampValue {s : String} {value : Yaml} (h : timestampValue s = .ok value) :
    value.isMap = false := by
  unfold timestampValue at h
  dsimp only at h
  split at h
  · next parts _ =>
    cases hvalue : parts.value? with
    | none =>
        rw [hvalue] at h
        cases h
    | some read =>
        rw [hvalue] at h
        cases h
        exact Timestamp.isMap_of_value? hvalue
  · cases h

/-- A scalar is no mapping. -/
theorem Kind.isMap_of_read {kind : Kind} {s : String} {value : Yaml} (h : kind.read s = .ok value) :
    value.isMap = false := by
  cases kind
  case timestamp =>
    cases hvalue : timestampValue s with
    | error mistake => simp [Kind.read, hvalue] at h
    | ok parsed =>
        simp only [Kind.read, hvalue, id, Except.ok.injEq] at h
        exact h ▸ isMap_of_timestampValue hvalue
  all_goals
    unfold Kind.read at h
    dsimp only at h
    repeat' split at h
    all_goals cases h
    all_goals rfl

namespace Assembly

/-! ## What the steps of assembling keep -/

/-- What a node stands for has no key twice. -/
def IsApart : Holding → Prop
  | .leaf value => value.isMap = false
  | .entries entries => Apart entries
  | _ => True

/-- No node that is known stands for a mapping with a key twice. -/
def Tidy (a : Assembly) : Prop :=
  ∀ (index : Nat) (holding : Holding), a.holdings[index]? = some (some holding) → IsApart holding

/-- A step keeps an assembly tidy, and its result has a property. -/
def Keeps (Q : α → Prop) (step : Build α) : Prop :=
  ∀ a b a', Tidy a → step.run a = .ok (b, a') → Tidy a' ∧ Q b

/-- Nothing is said about the result. -/
def Whatever (_ : α) : Prop := True

variable {P : α → Prop} {Q : β → Prop} {step : Build α} {next : α → Build β}

theorem Keeps.bind (h : Keeps P step) (hnext : ∀ b, P b → Keeps Q (next b)) :
    Keeps Q (step >>= next) := by
  intro a c a'' ha hrun
  rw [StateT.run_bind] at hrun
  cases hstep : step.run a with
  | error defect =>
      rw [hstep] at hrun
      cases hrun
  | ok result =>
      obtain ⟨b, a'⟩ := result
      rw [hstep] at hrun
      obtain ⟨ha', hb⟩ := h a b a' ha hstep
      exact hnext b hb a' c a'' ha' hrun

theorem keeps_pure {b : α} (h : P b) : Keeps P (pure b) := by
  rintro a _ _ ha ⟨⟩
  exact ⟨ha, h⟩

theorem keeps_throw {defect : Defect} : Keeps P (throw defect : Build α) := by
  rintro a b a' ha ⟨⟩

theorem keeps_lift {result : Except Defect α} (h : ∀ b, result = .ok b → P b) :
    Keeps P (liftM result : Build α) := by
  rintro a b a' ha hrun
  cases result with
  | error defect => cases hrun
  | ok c =>
      cases hrun
      exact ⟨ha, h _ rfl⟩

theorem keeps_get : Keeps Tidy (get : Build Assembly) := by
  rintro a _ _ ha ⟨⟩
  exact ⟨ha, ha⟩

theorem keeps_modify {f : Assembly → Assembly} (h : ∀ a, Tidy a → Tidy (f a)) :
    Keeps Whatever (modify f : Build Unit) := by
  rintro a _ _ ha ⟨⟩
  exact ⟨h a ha, trivial⟩

/-! ## Steps over lists -/

theorem keeps_mapM {steps : β → Build α} {items : List β}
    (h : ∀ item, Keeps Whatever (steps item)) : Keeps Whatever (items.mapM steps) := by
  induction items with
  | nil => exact keeps_pure trivial
  | cons item rest ih =>
      rw [List.mapM_cons]
      exact (h item).bind fun _ _ => ih.bind fun _ _ => keeps_pure trivial

theorem keeps_forM {steps : β → Build PUnit} {items : List β}
    (h : ∀ item, Keeps Whatever (steps item)) : Keeps Whatever (items.forM steps) := by
  induction items with
  | nil => exact keeps_pure trivial
  | cons item rest ih => exact (h item).bind fun _ _ => ih

theorem keeps_forIn {steps : β → Build (ForInStep PUnit)} {items : List β}
    (h : ∀ item, Keeps Whatever (steps item)) :
    Keeps Whatever (forIn items PUnit.unit fun item _ => steps item) := by
  induction items with
  | nil => exact keeps_pure trivial
  | cons item rest ih =>
      rw [List.forIn_cons]
      refine (h item).bind fun step _ => ?_
      cases step with
      | done _ => exact keeps_pure trivial
      | yield _ => exact ih

theorem keeps_foldlM {steps : α → β → Build α} {items : List β}
    (h : ∀ b item, P b → Keeps P (steps b item)) {b : α} (hb : P b) :
    Keeps P (items.foldlM steps b) := by
  induction items generalizing b with
  | nil => exact keeps_pure hb
  | cons item rest ih => exact (h b item hb).bind fun _ hc => ih hc

theorem keeps_findM {test : β → Build Bool} {items : List β}
    (h : ∀ item, Keeps Whatever (test item)) : Keeps Whatever (items.findM? test) := by
  induction items with
  | nil => exact keeps_pure trivial
  | cons item rest ih =>
      refine (h item).bind fun found _ => ?_
      cases found with
      | true => exact keeps_pure trivial
      | false => exact ih

/-! ## The steps -/

theorem keeps_node (index : Nat) : Keeps Whatever (node index) :=
  keeps_get.bind fun _ _ => keeps_pure trivial

theorem keeps_entriesOf (index : Nat) : Keeps Whatever (entriesOf index) := by
  refine (keeps_node index).bind fun found _ => ?_
  cases found.content with
  | mapping entries => exact keeps_pure trivial
  | _ => exact keeps_throw

theorem keeps_itemsOf (index : Nat) : Keeps Whatever (itemsOf index) := by
  refine (keeps_node index).bind fun found _ => ?_
  cases found.content with
  | sequence items => exact keeps_pure trivial
  | _ => exact keeps_throw

theorem keeps_updateNode (index : Nat) (f : Node → Node) : Keeps Whatever (updateNode index f) :=
  keeps_modify fun _ ha => ha

theorem keeps_hold (index : Nat) {holding : Holding} (h : IsApart holding) :
    Keeps Whatever (hold index holding) := by
  refine keeps_modify fun a ha place found hfound => ?_
  rw [Array.getElem?_setIfInBounds] at hfound
  split_ifs at hfound with hplace hbound
  · cases hfound
    exact h
  · exact ha place found hfound

theorem keeps_begin (index : Nat) {holding : Holding} (h : IsApart holding) :
    Keeps Whatever (begin index holding) :=
  (keeps_hold index h).bind fun _ _ => keeps_modify fun _ ha => ha

theorem keeps_scalarText (fuel index : Nat) : Keeps Whatever (scalarText fuel index) := by
  induction fuel generalizing index with
  | zero => exact keeps_throw
  | succ fuel ih =>
      refine (keeps_node index).bind fun found _ => ?_
      cases found.content with
      | scalar content => exact keeps_pure trivial
      | sequence items => exact keeps_throw
      | mapping entries =>
          dsimp only
          refine Keeps.bind (keeps_findM fun entry => ?_) fun found _ => ?_
          · exact (keeps_node entry.1).bind fun _ _ => keeps_pure trivial
          · rcases found with _ | ⟨key, value⟩
            · exact keeps_throw
            · exact ih value

theorem keeps_leafOf (index : Nat) : Keeps (fun value => value.isMap = false) (leafOf index) := by
  refine (keeps_node index).bind fun ⟨kind, content⟩ _ => ?_
  have hread (written : String) :
      Keeps (fun value => value.isMap = false) (liftM (kind.read written) : Build Yaml) :=
    keeps_lift fun _ => Kind.isMap_of_read
  cases kind with
  | merge | default | unknown => exact keeps_throw
  | timestamp =>
      refine keeps_get.bind fun _ _ => (keeps_scalarText _ index).bind fun written _ => ?_
      cases content with
      | mapping entries => exact keeps_throw
      | _ => exact hread written
  | _ =>
      exact keeps_get.bind fun _ _ =>
        (keeps_scalarText _ index).bind fun written _ => hread written

theorem keeps_visit (index : Nat) : Keeps Whatever (visit index) := by
  refine keeps_get.bind fun a _ => ?_
  split
  · refine (keeps_node index).bind fun found _ => ?_
    cases found.kind with
    | sequence => exact keeps_begin index trivial
    | pairs => exact keeps_begin index trivial
    | set => exact keeps_begin index trivial
    | mapping => exact keeps_begin index List.Pairwise.nil
    | _ => exact (keeps_leafOf index).bind fun value hvalue => keeps_hold index hvalue
  · exact keeps_pure trivial

theorem keeps_visitKey (index : Nat) : Keeps Whatever (visitKey index) := by
  refine (keeps_visit index).bind fun _ _ => keeps_get.bind fun a _ => ?_
  split
  · exact keeps_pure trivial
  · exact keeps_throw

theorem keeps_flatten (fuel index : Nat) (taken : List (Nat × Nat)) :
    Keeps Whatever (flatten fuel index taken) := by
  induction fuel generalizing index taken with
  | zero => exact keeps_throw
  | succ fuel ih =>
      refine (keeps_entriesOf index).bind fun entries _ => ?_
      refine Keeps.bind (keeps_mapM fun entry => ?_) fun kinds _ => ?_
      · exact (keeps_node entry.1).bind fun _ _ => keeps_pure trivial
      · dsimp only
        split
        · refine Keeps.bind (keeps_forIn fun entry => ?_) fun _ _ => keeps_updateNode index _
          split_ifs
          · exact (keeps_updateNode entry.1.1 _).bind fun _ _ => keeps_pure trivial
          · exact keeps_pure trivial
        · refine (keeps_updateNode index _).bind fun _ _ => (keeps_node _).bind fun found _ => ?_
          have hfrom (source : Nat) : Keeps Whatever (do
              let _ ← entriesOf source
              flatten fuel source []
              entriesOf source) :=
            (keeps_entriesOf source).bind fun _ _ => (ih source []).bind fun _ _ =>
              keeps_entriesOf source
          split
          · exact (hfrom _).bind fun more _ => ih index _
          · exact (keeps_mapM hfrom).bind fun groups _ => ih index _
          · exact keeps_throw

theorem keeps_fillEntries (index : Nat) : Keeps Apart (fillEntries index) := by
  refine (keeps_entriesOf index).bind fun _ _ => keeps_get.bind fun a _ => ?_
  refine (keeps_flatten _ index []).bind fun _ _ => (keeps_entriesOf index).bind fun entries _ => ?_
  refine keeps_foldlM (fun known entry hknown => ?_) List.Pairwise.nil
  exact (keeps_visitKey entry.1).bind fun key _ => (keeps_visit entry.2).bind fun _ _ =>
    keeps_pure hknown.setEntry

theorem keeps_fill (index : Nat) : Keeps Whatever (fill index) := by
  refine (keeps_node index).bind fun found _ => ?_
  split
  · exact (keeps_itemsOf index).bind fun items _ =>
      (keeps_forM keeps_visit).bind fun _ _ => keeps_hold index trivial
  · refine (keeps_itemsOf index).bind fun items _ => ?_
    refine Keeps.bind (keeps_mapM fun item => ?_) fun pairs _ => keeps_hold index trivial
    refine (keeps_entriesOf item).bind fun entries _ => ?_
    split
    · exact (keeps_visit _).bind fun _ _ => (keeps_visit _).bind fun _ _ => keeps_pure trivial
    · exact keeps_throw
  · exact (keeps_fillEntries index).bind fun entries _ => keeps_hold index trivial
  · exact (keeps_fillEntries index).bind fun entries hentries => keeps_hold index hentries

theorem keeps_fillAll (fuel place : Nat) : Keeps Whatever (fillAll fuel place) := by
  induction fuel generalizing place with
  | zero => exact keeps_pure trivial
  | succ fuel ih =>
      refine keeps_get.bind fun a _ => ?_
      split
      · exact keeps_pure trivial
      · exact (keeps_fill _).bind fun _ _ => ih (place + 1)

/-- Before anything is met nothing is known. -/
theorem tidy_start (nodes : Array Node) (size : Nat) :
    Tidy ⟨nodes, Array.replicate size none, #[]⟩ := by
  intro index holding hfound
  rw [Array.getElem?_replicate] at hfound
  split_ifs at hfound
  cases hfound

end Assembly

/-! ## The value of a document -/

/-- The key of an entry is the one it was assembled with, so the root has no key twice. -/
theorem apart_of_rootValue {holdings : Array (Option Holding)} {root : Nat}
    {entries : List (Yaml × Yaml)}
    (htidy : ∀ holding, holdings[root]? = some (some holding) → Assembly.IsApart holding)
    (h : rootValue holdings root = .map entries) : Apart entries := by
  unfold rootValue at h
  cases hheld : holdings[root]?.join with
  | none => simp [hheld, valueOf] at h
  | some holding =>
      have hapart := htidy holding (Option.join_eq_some_iff.mp hheld)
      cases holding with
      | leaf value =>
          obtain rfl : value = .map entries := by simpa [hheld, valueOf] using h
          exact absurd hapart (by simp [Assembly.IsApart, isMap])
      | entries held =>
          simp only [hheld] at h
          injection h with h
          rw [← h, apart_iff_keys, List.map_map]
          exact apart_iff_keys.mp hapart
      | _ => simp [hheld, valueOf] at h

theorem apart_of_ofGraph {graph : Node.Graph} {entries : List (Yaml × Yaml)}
    (h : ofGraph graph = .ok (.map entries)) : Apart entries := by
  unfold ofGraph at h
  rcases hroot : graph.root with _ | root
  · simp only [hroot] at h
    cases h
  · simp only [hroot] at h
    have hkeeps : Assembly.Keeps Assembly.Whatever (do
        Assembly.visit root
        Assembly.fillAll (graph.nodes.size + 1) 0 : Assembly.Build Unit) :=
      (Assembly.keeps_visit root).bind fun _ _ => Assembly.keeps_fillAll _ 0
    generalize (do
      Assembly.visit root
      Assembly.fillAll (graph.nodes.size + 1) 0 : Assembly.Build Unit) = build at h hkeeps
    cases hrun : build.run ⟨graph.nodes, Array.replicate graph.nodes.size none, #[]⟩ with
    | error defect =>
        rw [hrun] at h
        cases h
    | ok result =>
        obtain ⟨_, a⟩ := result
        rw [hrun] at h
        have hvalue : rootValue a.holdings root = .map entries := Except.ok.inj h
        have htidy := (hkeeps _ _ _ (Assembly.tidy_start _ _) hrun).1
        exact apart_of_rootValue (htidy root) hvalue

/-- No key of a mapping that is read is the same as a later one. -/
theorem apart_of_read {text : String} {entries : List (Yaml × Yaml)}
    (h : read text = .ok (.map entries)) : Apart entries := by
  unfold read at h
  cases hgraph : Node.ofTokens (tokensOf text) with
  | error defect =>
      rw [hgraph] at h
      cases h
  | ok graph =>
      rw [hgraph] at h
      exact apart_of_ofGraph h

end PodReach.Yaml
