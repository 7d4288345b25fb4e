import PodReach.Kubeconfig.Provider
import PodReach.Proofs.Outcome
import PodReach.Proofs.World.Steps
import PodReach.Proofs.Yaml.Keys
import PodReach.Proofs.Yaml.Same

/-!
# Which entry of a name counts

The entries of several files are put together one after the other, and one whose name is taken is
left out. So the first entry that bears a name in the list of the first file is the first one that
bears it in what the files say together, and a name that the first file does not list is that of an
entry of a later file, if it is listed at all.
-/

namespace PodReach

namespace Yaml

theorem isCollection_eq_of_same {a b : Yaml} (h : same a b = true) :
    a.isCollection = b.isCollection := by
  cases a <;> cases b <;> simp_all [same, isCollection]

end Yaml

namespace Kubeconfig

open Outcome Run

/-! ## Names of entries -/

/-- Whether an entry of a list is a mapping with this name. -/
def bears (name : Yaml) : Yaml → Bool
  | .map entries => (Yaml.lookup? "name" entries).any (Yaml.same · name)
  | _ => false

section Names

variable {name entry : Yaml} {p q : Part} {known : List Part}

/-- What stands under a name of an entry is what the entry, a mapping, has there. -/
theorem Part.under_eq_ok {key : String} (h : p.under key = .ok q) :
    ∃ entries, p.value = .map entries ∧ Yaml.lookup? key entries = some q.value ∧
      q.file = p.file := by
  simp only [Part.under, Part.has, bind_eq_ok_iff] at h
  obtain ⟨has, hhas, h⟩ := h
  cases has with
  | false => cases h
  | true =>
      rw [if_pos rfl] at h
      split at h
      · rename_i entries hvalue
        split at h
        · cases h
        · rename_i hnull
          cases h
          refine ⟨entries, hvalue, ?_, rfl⟩
          cases hfound : Yaml.lookup? key entries with
          | none => exact absurd (by rw [hfound]; rfl) hnull
          | some found => rfl
      · cases h

/-- A mapping that has a name bears those that are the same. -/
theorem bears_of_under (h : p.under "name" = .ok q) :
    bears name p.value = Yaml.same q.value name := by
  obtain ⟨entries, hvalue, hlookup, -⟩ := Part.under_eq_ok h
  rw [hvalue, bears, hlookup]
  rfl

theorem newName_eq_ok {own : Yaml} (h : newName entry = .ok own) :
    entry.isMap = true ∧ ∀ name, bears name entry = Yaml.same own name := by
  unfold newName at h
  split at h
  · rename_i entries
    split at h
    · rename_i found hlookup
      cases h
      exact ⟨rfl, fun name => by rw [bears, hlookup]; rfl⟩
    · cases h
  · cases h

/-- An entry is left out for one that bears every name that it bears. -/
theorem exists_bears_of_isListed (h : isListed entry known = .ok true)
    (hentry : bears name entry = true) : ∃ p ∈ known, bears name p.value = true := by
  induction known with
  | nil => cases h
  | cons first rest ih =>
      simp only [isListed, bind_eq_ok_iff] at h
      obtain ⟨taken, htaken, own, hown, h⟩ := h
      by_cases hsame : Part.sameName taken.value own = true
      · refine ⟨first, List.mem_cons_self, ?_⟩
        rw [(newName_eq_ok hown).2 name] at hentry
        rw [bears_of_under htaken]
        exact Yaml.same_trans (Bool.and_eq_true_iff.mp hsame).2 hentry
      · rw [if_neg hsame] at h
        obtain ⟨p, hp, hbears⟩ := ih h
        exact ⟨p, List.mem_cons_of_mem _ hp, hbears⟩

/-- Only mappings are compared with others. -/
theorem isMap_of_isListed {listed : Bool} (h : isListed entry known = .ok listed)
    (hne : known ≠ []) : entry.isMap = true := by
  cases known with
  | nil => exact absurd rfl hne
  | cons first rest =>
      simp only [isListed, bind_eq_ok_iff] at h
      obtain ⟨taken, -, own, hown, -⟩ := h
      exact (newName_eq_ok hown).1

end Names

/-! ## Lists of entries put together -/

/-- A list of entries after those of a file were added to it. -/
structure Merged (file : String) (known : List Part) (more : List Yaml) (merged : List Part) :
    Prop where
  kept : known <+: merged
  origin : ∀ p ∈ merged, p ∈ known ∨ p.file = file ∧ p.value ∈ more
  /-- The first entry that bears a name is what it would be if no entry were left out. -/
  found : ∀ name, (merged.map (·.value)).find? (bears name) =
    (known.map (·.value) ++ more).find? (bears name)
  /-- No entry is left out but a mapping. -/
  maps : (∀ p ∈ merged, p.value.isMap = true) → ∀ entry ∈ more, entry.isMap = true

namespace Merged

variable {file : String} {known merged : List Part} {entry : Yaml} {more : List Yaml}

theorem refl (file : String) (known : List Part) : Merged file known [] known where
  kept := List.prefix_rfl
  origin := fun _ => Or.inl
  found := fun _ => by simp
  maps := by simp

/-- An entry whose name is taken is left out. -/
theorem of_listed (hlisted : isListed entry known = .ok true)
    (h : Merged file known more merged) : Merged file known (entry :: more) merged where
  kept := h.kept
  origin := fun p hp => (h.origin p hp).imp_right fun ⟨hfile, hmem⟩ =>
    ⟨hfile, List.mem_cons_of_mem _ hmem⟩
  found := by
    intro name
    rw [h.found, List.find?_append, List.find?_append, List.find?_cons]
    cases hentry : bears name entry with
    | false => rfl
    | true =>
        obtain ⟨p, hp, hbears⟩ := exists_bears_of_isListed hlisted hentry
        have hsome : ((known.map (·.value)).find? (bears name)).isSome = true :=
          List.find?_isSome.mpr ⟨p.value, List.mem_map_of_mem hp, hbears⟩
        obtain ⟨value, hvalue⟩ := Option.isSome_iff_exists.mp hsome
        simp [hvalue]
  maps := by
    intro hmaps other hother
    rcases List.mem_cons.mp hother with rfl | hmore
    · refine isMap_of_isListed hlisted fun hnil => ?_
      rw [hnil] at hlisted
      cases hlisted
    · exact h.maps hmaps other hmore

/-- An entry with a new name comes last. -/
theorem of_new {label : String}
    (h : Merged file (known ++ [⟨file, label, entry⟩]) more merged) :
    Merged file known (entry :: more) merged where
  kept := (List.prefix_append _ _).trans h.kept
  origin := by
    intro p hp
    rcases h.origin p hp with hknown | ⟨hfile, hmem⟩
    · rcases List.mem_append.mp hknown with hold | hnew
      · exact Or.inl hold
      · rw [List.mem_singleton.mp hnew]
        exact Or.inr ⟨rfl, List.mem_cons_self⟩
    · exact Or.inr ⟨hfile, List.mem_cons_of_mem _ hmem⟩
  found := by
    intro name
    rw [h.found]
    simp
  maps := by
    intro hmaps other hother
    rcases List.mem_cons.mp hother with rfl | hmore
    · exact hmaps _ (h.kept.subset (List.mem_append_right _ (List.mem_singleton_self _)))
    · exact h.maps hmaps other hmore

end Merged

/-- Adding the entries of a file one by one puts the lists together. -/
theorem merged_of_mergeEntries {file : String} {known merged : List Part} {more : List Yaml}
    (h : mergeEntries file known more = .ok merged) : Merged file known more merged := by
  unfold mergeEntries at h
  induction more generalizing known with
  | nil =>
      cases h
      exact .refl file merged
  | cons entry more ih =>
      simp only [List.foldlM_cons, bind_eq_ok_iff] at h
      obtain ⟨next, ⟨listed, hlisted, hnext⟩, h⟩ := h
      cases listed with
      | true =>
          cases hnext
          exact (ih h).of_listed hlisted
      | false =>
          cases hnext
          exact (ih h).of_new

/-! ## Files -/

section Files

variable {w w' : World} {path : String} {entries : List (Yaml × Yaml)} {users : List Yaml}
  {k : Kubeconfig}

/-- What can be read at a path is a mapping with these entries. -/
def HoldsMap (w : World) (path : String) (entries : List (Yaml × Yaml)) : Prop :=
  ∃ lying content, w.fileAt? path = some lying ∧ lying.read = .ok content ∧
    Yaml.read content = .ok (.map entries)

/-- The file at a path lists these users. -/
def ListsUsers (w : World) (path : String) (users : List Yaml) : Prop :=
  ∃ entries, HoldsMap w path entries ∧
    ((Yaml.lookup? "users" entries).getD .null).partsIfAny = .ok users

theorem HoldsMap.unique {others : List (Yaml × Yaml)} (h : HoldsMap w path entries)
    (h' : HoldsMap w path others) : entries = others := by
  obtain ⟨lying, content, hlying, hread, hmap⟩ := h
  obtain ⟨lying', content', hlying', hread', hmap'⟩ := h'
  obtain rfl := Option.some.inj (hlying.symm.trans hlying')
  obtain rfl := Except.ok.inj (hread.symm.trans hread')
  exact Yaml.map.inj (Except.ok.inj (hmap.symm.trans hmap'))

theorem ListsUsers.unique {others : List Yaml} (h : ListsUsers w path users)
    (h' : ListsUsers w path others) : users = others := by
  obtain ⟨entries, hholds, husers⟩ := h
  obtain ⟨entries', hholds', husers'⟩ := h'
  obtain rfl := hholds.unique hholds'
  exact Except.ok.inj (husers.symm.trans husers')

/-- Either nothing lies at a path, or a mapping is read there. -/
theorem readFile_eq_ok {first : Bool} {content : Option (List (Yaml × Yaml))}
    (h : readFile first path w = (.ok content, w')) :
    w' = w ∧ (content = none ∧ w.fileAt? path = none ∨
      ∃ entries, content = some entries ∧ HoldsMap w path entries) := by
  unfold readFile at h
  rw [bind_of_ok (get_apply w)] at h
  cases hlying : w.fileAt? path with
  | none =>
      rw [hlying] at h
      cases h
      exact ⟨rfl, Or.inl ⟨rfl, rfl⟩⟩
  | some lying =>
      rw [hlying] at h
      obtain ⟨text, v, htext, hvalue⟩ := bind_eq_ok h
      obtain ⟨hread, rfl⟩ := ofExcept_eq_ok htext
      cases hmapping : Yaml.read text with
      | error defect =>
          rw [hmapping] at hvalue
          cases defect <;> cases hvalue
      | ok value =>
          rw [hmapping] at hvalue
          cases value with
          | map entries =>
              cases hvalue
              exact ⟨rfl, Or.inr ⟨entries, rfl, lying, text, hlying, hread, hmapping⟩⟩
          | _ => cases hvalue

/-- The users of a file are put to those that are known. -/
theorem addFile_eq_ok {k k' : Kubeconfig} {file : String} (h : addFile k file entries = .ok k') :
    ∃ users, ((Yaml.lookup? "users" entries).getD .null).partsIfAny = .ok users ∧
      Merged file k.users users k'.users := by
  simp only [addFile, bind_eq_ok_iff] at h
  obtain ⟨clusters, -, contexts, -, merged, ⟨users, husers, hmerged⟩, h⟩ := h
  cases h
  refine ⟨users, ?_, merged_of_mergeEntries hmerged⟩
  revert husers
  cases ((Yaml.lookup? "users" entries).getD .null).partsIfAny with
  | error mistake => nofun
  | ok read => exact fun husers => congrArg Except.ok (Except.ok.inj husers)

/-- Users of files were put to those that are known. -/
structure Gathered (w : World) (known users : List Part) : Prop where
  kept : known <+: users
  origin : ∀ p ∈ users, p ∈ known ∨ ∃ listed, ListsUsers w p.file listed ∧ p.value ∈ listed

namespace Gathered

variable {known next users : List Part}

theorem refl (w : World) (known : List Part) : Gathered w known known :=
  ⟨List.prefix_rfl, fun _ => Or.inl⟩

theorem trans (h : Gathered w known next) (h' : Gathered w next users) :
    Gathered w known users where
  kept := h.kept.trans h'.kept
  origin := fun p hp => (h'.origin p hp).elim (h.origin p) Or.inr

theorem of_merged {listed : List Yaml} (hlists : ListsUsers w path listed)
    (h : Merged path known listed users) : Gathered w known users where
  kept := h.kept
  origin := fun p hp => (h.origin p hp).imp_right fun ⟨hfile, hmem⟩ =>
    ⟨listed, hfile ▸ hlists, hmem⟩

end Gathered

/-- Reading files changes nothing, and it only adds users. -/
theorem readFiles_eq_ok {start result : Option Kubeconfig} {paths : List String}
    (h : readFiles start paths w = (.ok result, w')) :
    w' = w ∧ ∀ k, result = some k → Gathered w (start.getD nothing).users k.users := by
  induction paths generalizing start w with
  | nil =>
      cases h
      exact ⟨rfl, fun k hk => by subst hk; exact .refl w' k.users⟩
  | cons path rest ih =>
      unfold readFiles at h
      obtain ⟨content, v, hread, hgoOn⟩ := bind_eq_ok h
      obtain ⟨rfl, ⟨rfl, -⟩ | ⟨entries, rfl, hholds⟩⟩ := readFile_eq_ok hread
      · exact ih hgoOn
      · obtain ⟨next, v', hadded, hlater⟩ := bind_eq_ok hgoOn
        obtain ⟨hadd, rfl⟩ := ofExcept_eq_ok hadded
        obtain ⟨listed, hlisted, hmerged⟩ := addFile_eq_ok hadd
        obtain ⟨rfl, hrest⟩ := ih hlater
        have hfile := Gathered.of_merged ⟨entries, hholds, hlisted⟩ hmerged
        exact ⟨rfl, fun k hk => hfile.trans (hrest k hk)⟩

/-- Nothing lies where no path is given. -/
theorem fileAt?_empty (w : World) : w.fileAt? "" = none := by
  simp [World.fileAt?, World.placeOf?]

/-- Where something lies at the first place, it is the first that is read. -/
theorem paths_eq_cons {given : Option String} (hgiven : given ≠ some "")
    (hlying : w.fileAt? (firstPath w.home given) ≠ none) :
    ∃ rest, paths w.home (given.getD usualPath) = firstPath w.home given :: rest := by
  have hplaces : placesOr given = given.getD usualPath := by
    cases given with
    | none => rfl
    | some places =>
        have hne : places ≠ "" := fun h => hgiven (h ▸ rfl)
        simp [placesOr, Text.nonempty, hne]
  unfold firstPath at hlying ⊢
  rw [hplaces] at hlying ⊢
  unfold paths
  cases hsplit : Text.split ':' (given.getD usualPath) with
  | nil =>
      rw [hsplit] at hlying
      exact absurd (fileAt?_empty w) hlying
  | cons first rest =>
      rw [hsplit] at hlying
      have hfirst : first.isEmpty = false := by
        refine eq_false_of_ne_true fun hempty => hlying ?_
        rw [String.isEmpty_iff.mp hempty]
        exact fileAt?_empty w
      exact ⟨_, by rw [List.filter_cons_of_pos (by rw [hfirst]; rfl)]; rfl⟩

/-- The users of the first place come first among those that are loaded; there are none of its
users if nothing lies there. -/
theorem load_eq_ok {given : Option String} (h : load given w = (.ok k, w')) :
    w' = w ∧ Gathered w [] k.users ∧
      (w.fileAt? (firstPath w.home given) = none ∨
        ∃ users merged, ListsUsers w (firstPath w.home given) users ∧
          Merged (firstPath w.home given) [] users merged ∧ Gathered w merged k.users) := by
  unfold load at h
  rw [bind_of_ok (get_apply w)] at h
  obtain ⟨result, v, hread, h⟩ := bind_eq_ok h
  cases result with
  | none => cases h
  | some loaded =>
      cases h
      obtain ⟨rfl, hall⟩ := readFiles_eq_ok hread
      refine ⟨rfl, hall k rfl, or_iff_not_imp_left.mpr fun hlying => ?_⟩
      have hgiven : given ≠ some "" := by
        rintro rfl
        cases hread
      obtain ⟨rest, hpaths⟩ := paths_eq_cons hgiven hlying
      rw [hpaths] at hread
      unfold readFiles at hread
      obtain ⟨content, v, hfirst, hgoOn⟩ := bind_eq_ok hread
      obtain ⟨rfl, ⟨-, hnothing⟩ | ⟨entries, rfl, hholds⟩⟩ := readFile_eq_ok hfirst
      · exact absurd hnothing hlying
      · obtain ⟨next, v', hadded, hlater⟩ := bind_eq_ok hgoOn
        obtain ⟨hadd, rfl⟩ := ofExcept_eq_ok hadded
        obtain ⟨users, husers, hmerged⟩ := addFile_eq_ok hadd
        exact ⟨users, next.users, ⟨entries, hholds, husers⟩, hmerged,
          (readFiles_eq_ok hlater).2 k rfl⟩

end Files

/-! ## The user of a context -/

section Users

variable {k : Kubeconfig} {context entry : Part} {entries names : List Part} {name : Yaml}
  {found user : Option Part}

/-- Names are looked for where the mappings that bear them are. -/
theorem find?_zip_names (hname : name.isCollection = false)
    (h : List.Forall₂ (fun p q => p.under "name" = .ok q) entries names) :
    ((names.zip entries).find? fun (n, _) => Part.sameName n.value name).map (·.2) =
      entries.find? fun p => bears name p.value := by
  induction h with
  | nil => rfl
  | @cons p q entries names hunder _ ih =>
      have hsame : Part.sameName q.value name = bears name p.value := by
        rw [bears_of_under hunder, Part.sameName]
        cases hvalue : Yaml.same q.value name with
        | false => simp
        | true => simp [Yaml.isCollection_eq_of_same hvalue, hname]
      rw [List.zip_cons_cons, List.find?_cons, List.find?_cons]
      simp only [hsame]
      cases bears name p.value with
      | true => rfl
      | false => exact ih

theorem isMap_of_names (h : List.Forall₂ (fun p q => p.under "name" = .ok q) entries names) :
    ∀ p ∈ entries, p.value.isMap = true := by
  induction h with
  | nil => simp
  | cons hunder _ ih =>
      obtain ⟨fields, hvalue, -⟩ := Part.under_eq_ok hunder
      exact List.forall_mem_cons.mpr ⟨hvalue ▸ rfl, ih⟩

/-- Every entry of a list in which a name was looked for is a mapping, and the first one that bears
the name was found. -/
theorem named?_eq_ok (hname : name.isCollection = false) (h : named? name entries = .ok found) :
    found = entries.find? (fun p => bears name p.value) ∧
      ∀ p ∈ entries, p.value.isMap = true := by
  simp only [named?, bind_eq_ok_iff] at h
  obtain ⟨names, hnames, h⟩ := h
  cases h
  rw [mapM_eq_ok_iff] at hnames
  exact ⟨find?_zip_names hname hnames, isMap_of_names hnames⟩

/-- A list or a mapping is the name of nothing. -/
theorem isCollection_of_named? (h : named? name entries = .ok (some entry)) :
    name.isCollection = false := by
  simp only [named?, bind_eq_ok_iff] at h
  obtain ⟨names, -, h⟩ := h
  obtain ⟨⟨q, _⟩, hfound, -⟩ := Option.map_eq_some_iff.mp (Except.ok.inj h)
  have hsame := List.find?_some hfound
  simp only [Part.sameName, Bool.and_eq_true, Bool.not_eq_true'] at hsame
  rw [← Yaml.isCollection_eq_of_same hsame.2]
  exact hsame.1

/-- The user that a context names, as the two ways of asking for it have it. -/
theorem field_eq_ok {q : Part} (h : context.field "user" = .ok q)
    (hname : context.field? "user" = .ok name) : q.value = name := by
  unfold Part.field at h
  split at h
  · obtain ⟨fields, hvalue, hlookup, -⟩ := Part.under_eq_ok h
    rw [Part.field?, hvalue] at hname
    dsimp only at hname
    rw [hlookup] at hname
    exact Except.ok.inj hname
  · cases h

/-- The user of a context is that of the first entry that bears the name, if there is one. -/
theorem userOf_eq_ok (h : userOf k context = .ok user)
    (hname : context.field? "user" = .ok name) (htruthy : name.truthy = true)
    (hkind : name.isCollection = false) :
    (∀ p ∈ k.users, p.value.isMap = true) ∧
      ((k.users.find? fun p => bears name p.value) = none ∧ user = none ∨
        ∃ entry fields, (k.users.find? fun p => bears name p.value) = some entry ∧
          entry.under "user" = .ok fields ∧ user = some fields) := by
  simp only [userOf, bind_eq_ok_iff] at h
  obtain ⟨_, hasked, h⟩ := h
  obtain rfl := Except.ok.inj (hname.symm.trans hasked)
  rw [htruthy, Bool.true_and] at h
  cases husers : k.users with
  | nil =>
      rw [husers] at h
      cases h
      exact ⟨by simp, Or.inl ⟨rfl, rfl⟩⟩
  | cons first rest =>
      rw [husers] at h
      simp only [List.isEmpty_cons, Bool.not_false, if_true, bind_eq_ok_iff] at h
      obtain ⟨q, hq, found, hfound, h⟩ := h
      rw [field_eq_ok hq hname] at hfound
      obtain ⟨hsearch, hmaps⟩ := named?_eq_ok hkind hfound
      refine ⟨hmaps, ?_⟩
      rw [← hsearch]
      cases found with
      | none =>
          cases h
          exact Or.inl ⟨rfl, rfl⟩
      | some entry =>
          obtain ⟨fields, hfields, h⟩ := bind_eq_ok_iff.mp h
          cases h
          exact Or.inr ⟨entry, fields, rfl, hfields, rfl⟩

/-- Only what counts as true and is no collection is the name of a user. -/
theorem name_of_userOf {fields : Part} (h : userOf k context = .ok (some fields))
    (hname : context.field? "user" = .ok name) :
    name.truthy = true ∧ name.isCollection = false := by
  simp only [userOf, bind_eq_ok_iff] at h
  obtain ⟨_, hasked, h⟩ := h
  obtain rfl := Except.ok.inj (hname.symm.trans hasked)
  by_cases hasks : (name.truthy && !k.users.isEmpty) = true
  · rw [if_pos hasks] at h
    simp only [bind_eq_ok_iff] at h
    obtain ⟨q, hq, found, hfound, h⟩ := h
    rw [field_eq_ok hq hname] at hfound
    cases found with
    | none => cases h
    | some entry => exact ⟨(Bool.and_eq_true_iff.mp hasks).1, isCollection_of_named? hfound⟩
  · rw [if_neg hasks] at h
    cases h

/-- A context in use is a mapping, and its user was looked for. -/
theorem choose_eq_ok {wanted : Option String} {chosen : Chosen}
    (h : k.choose wanted = .ok chosen) :
    userOf k chosen.context = .ok chosen.user ∧ chosen.context.value.isMap = true := by
  have hsteps : ∃ q, userOf k chosen.context = .ok chosen.user ∧
      chosen.context.field "cluster" = .ok q := by
    unfold choose at h
    -- The same steps follow whichever name is looked for.
    split at h
    on_goal 2 => split at h
    on_goal 2 => cases h
    all_goals
      simp only [bind_eq_ok_iff] at h
      obtain ⟨name, -, _ | entry, -, h⟩ := h
      · cases h
      · simp only [bind_eq_ok_iff] at h
        obtain ⟨context, -, user, huser, q, hq, _ | cluster, -, h⟩ := h
        · cases h
        · simp only [bind_eq_ok_iff] at h
          obtain ⟨own, -, fields, -, h⟩ := h
          cases h
          exact ⟨q, huser, hq⟩
  obtain ⟨q, huser, hq⟩ := hsteps
  refine ⟨huser, ?_⟩
  unfold Part.field at hq
  split at hq
  · obtain ⟨fields, hvalue, -⟩ := Part.under_eq_ok hq
    exact hvalue ▸ rfl
  · cases hq

end Users

end Kubeconfig
end PodReach
