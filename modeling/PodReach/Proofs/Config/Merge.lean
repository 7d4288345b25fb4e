import PodReach.Config.Basic
import PodReach.Proofs.Yaml.Keys

/-!
# Settings over the usual ones

Entries that are set one after the other over the usual settings are all there afterwards, if each
has a key of its own, and of the usual settings those remain whose keys are not among them. Then the
paths are expanded, which changes nothing else.
-/

namespace PodReach.Config

open Yaml

variable {config expanded : Config} {given : List (Yaml × Yaml)} {entry : Yaml × Yaml}
  {name home : String} {value : Yaml}

/-- The names of the settings. -/
def keys (config : Config) : List Yaml :=
  config.entries.map (·.1)

/-- No key is taken for another one that is given. -/
def Distinguishes (config : Config) (given : List (Yaml × Yaml)) : Prop :=
  ∀ entry ∈ config.entries, ∀ other ∈ given, same entry.1 other.1 = true → entry.1 = other.1

theorem apart_usual : Apart usual.entries := by
  simp [Apart, usual, same]

/-- The usual settings are named by texts, and a text is not taken for anything else. -/
theorem distinguishes_usual (given : List (Yaml × Yaml)) : usual.Distinguishes given := by
  intro entry hentry other _ hsame
  obtain ⟨name, hname⟩ : ∃ name, entry.1 = .text name := by
    simp only [usual, List.mem_cons, List.not_mem_nil, or_false] at hentry
    rcases hentry with rfl | rfl | rfl | rfl | rfl | rfl | rfl | rfl <;> exact ⟨_, rfl⟩
  rw [hname] at hsame ⊢
  exact (eq_text_of_text_same hsame).symm

/-! ## Changing one setting -/

theorem mem_put_self : (.text name, value) ∈ (config.put name value).entries :=
  mem_setEntry_self fun _ _ hsame => eq_text_of_same hsame

theorem mem_put_of_ne (h : entry ∈ config.entries) (hother : entry.1 ≠ .text name) :
    entry ∈ (config.put name value).entries := by
  refine mem_setEntry_of_mem h (eq_false_of_ne_true fun hsame => ?_)
  exact hother (eq_text_of_same hsame)

/-- A setting that is there keeps its place. -/
theorem keys_put (h : .text name ∈ config.keys) : (config.put name value).keys = config.keys := by
  obtain ⟨entry, hentry, hkey⟩ := List.mem_map.mp h
  have hany : config.entries.any (fun entry => same entry.1 (.text name)) = true :=
    List.any_eq_true.mpr ⟨entry, hentry, by simp [hkey, same]⟩
  rw [keys, put, keys_setEntry, if_pos hany, List.append_nil]
  rfl

/-! ## Merging -/

theorem merge_cons (config : Config) (key value : Yaml) (rest : List (Yaml × Yaml)) :
    config.merge ((key, value) :: rest) =
      (⟨setEntry key value config.entries⟩ : Config).merge rest :=
  rfl

/-- Settings keep their places, and further ones come after them. -/
theorem keys_prefix_merge (config : Config) (given : List (Yaml × Yaml)) :
    config.keys <+: (config.merge given).keys := by
  induction given generalizing config with
  | nil => exact List.prefix_refl _
  | cons first rest ih =>
      obtain ⟨key, value⟩ := first
      rw [merge_cons]
      refine List.IsPrefix.trans ?_ (ih _)
      rw [keys, keys, keys_setEntry]
      exact List.prefix_append _ _

theorem apart_merge (h : Apart config.entries) : Apart (config.merge given).entries := by
  induction given generalizing config with
  | nil => exact h
  | cons first rest ih =>
      obtain ⟨key, value⟩ := first
      rw [merge_cons]
      exact ih h.setEntry

/-- Merging entries that are there already adds no setting. -/
theorem keys_merge_of_known
    (h : ∀ entry ∈ given, ∃ name, entry.1 = .text name ∧ .text name ∈ config.keys) :
    (config.merge given).keys = config.keys := by
  induction given generalizing config with
  | nil => rfl
  | cons first rest ih =>
      obtain ⟨key, value⟩ := first
      obtain ⟨name, rfl, hknown⟩ := h _ List.mem_cons_self
      have hput : (config.put name value).keys = config.keys := keys_put hknown
      change ((config.put name value).merge rest).keys = _
      rw [ih fun entry hentry => hput ▸ h entry (List.mem_cons_of_mem _ hentry), hput]

/-- A setting with a key that is not given stays. -/
theorem mem_merge_of_mem (h : entry ∈ config.entries)
    (hother : ∀ other ∈ given, same entry.1 other.1 = false) :
    entry ∈ (config.merge given).entries := by
  induction given generalizing config with
  | nil => exact h
  | cons first rest ih =>
      obtain ⟨key, value⟩ := first
      rw [merge_cons]
      exact ih (mem_setEntry_of_mem h (hother _ List.mem_cons_self))
        fun other hmem => hother other (List.mem_cons_of_mem _ hmem)

/-- Setting an entry whose key is apart from the later ones leaves them distinguished. -/
theorem Distinguishes.set {key : Yaml} (h : config.Distinguishes ((key, value) :: given))
    (hapart : Apart ((key, value) :: given)) :
    (⟨setEntry key value config.entries⟩ : Config).Distinguishes given := by
  intro entry hentry other hother hsame
  rcases key_of_mem_setEntry hentry with hold | hnew
  · obtain ⟨old, hold, hkey⟩ := List.mem_map.mp hold
    rw [← hkey] at hsame ⊢
    exact h old hold other (List.mem_cons_of_mem _ hother) hsame
  · have hdiffers := (List.pairwise_cons.mp hapart).1 other hother
    rw [hnew, hdiffers] at hsame
    cases hsame

/-- Every entry that is given is there afterwards. -/
theorem mem_merge_of_given (h : config.Distinguishes given) (hapart : Apart given)
    (hentry : entry ∈ given) : entry ∈ (config.merge given).entries := by
  induction given generalizing config with
  | nil => cases hentry
  | cons first rest ih =>
      obtain ⟨key, value⟩ := first
      obtain ⟨hlater, hrest⟩ := List.pairwise_cons.mp hapart
      rw [merge_cons]
      rcases List.mem_cons.mp hentry with rfl | hmem
      · refine mem_merge_of_mem (mem_setEntry_self fun old hold hsame => ?_) hlater
        exact h old hold _ List.mem_cons_self hsame
      · exact ih (h.set hapart) hrest hmem

/-- Nothing is there afterwards but what was there or was given. -/
theorem key_of_mem_merge (h : entry ∈ (config.merge given).entries) :
    entry.1 ∈ config.keys ∨ entry.1 ∈ given.map (·.1) := by
  induction given generalizing config with
  | nil => exact Or.inl (List.mem_map_of_mem h)
  | cons first rest ih =>
      obtain ⟨key, value⟩ := first
      rw [merge_cons] at h
      rcases ih h with hset | hgiven
      · obtain ⟨other, hother, hkey⟩ := List.mem_map.mp hset
        rw [← hkey]
        rcases key_of_mem_setEntry hother with hold | hnew
        · exact Or.inl hold
        · exact Or.inr (List.mem_map.mpr ⟨(key, value), List.mem_cons_self, hnew.symm⟩)
      · exact Or.inr (List.mem_cons_of_mem _ hgiven)

/-! ## Values -/

/-- Whether an entry is that of a name. -/
def isNamed (name : String) (entry : Yaml × Yaml) : Bool :=
  match entry.1 with
  | .text s => s == name
  | _ => false

theorem isNamed_iff : isNamed name entry = true ↔ entry.1 = .text name := by
  unfold isNamed
  split <;> simp_all

theorem lookup?_eq (name : String) (entries : List (Yaml × Yaml)) :
    lookup? name entries = (entries.find? (isNamed name)).map (·.2) :=
  rfl

/-- The value of a setting that is there. -/
theorem value_eq_of_mem (hapart : Apart config.entries) (h : (.text name, value) ∈ config.entries) :
    config.value name = value := by
  obtain ⟨before, after, hsplit⟩ := List.append_of_mem h
  have hbefore : ∀ entry ∈ before, isNamed name entry = false := by
    intro entry hentry
    rw [hsplit, Apart, List.pairwise_append] at hapart
    have hdiffers := hapart.2.2 entry hentry _ List.mem_cons_self
    by_contra hnamed
    rw [Bool.not_eq_false, isNamed_iff] at hnamed
    rw [hnamed] at hdiffers
    simp [same] at hdiffers
  have hfind : config.entries.find? (isNamed name) = some (.text name, value) := by
    rw [hsplit, List.find?_append, List.find?_eq_none.mpr (by simpa using hbefore)]
    simp [isNamed]
  rw [Config.value, lookup?_eq, hfind]
  rfl

/-- A setting that has another value than null is there. -/
theorem mem_of_value_ne_null (h : config.value name ≠ .null) :
    (.text name, config.value name) ∈ config.entries := by
  rw [Config.value, lookup?_eq] at h ⊢
  cases hfind : config.entries.find? (isNamed name) with
  | none => simp [hfind] at h
  | some entry =>
      have hkey := isNamed_iff.mp (List.find?_some hfind)
      have hmem := List.mem_of_find?_eq_some hfind
      obtain ⟨key, value⟩ := entry
      cases hkey
      exact hmem

/-! ## Expanding paths -/

/-- The settings whose values are paths. -/
def pathSettings : List String := ["kubeconfig", "log_dir"]

/-- What becomes of the value of a path setting: one that counts as false stays. -/
def expandedSetting (home : String) (value : Yaml) : Except Mistake Yaml :=
  if value.truthy then expandedPath home value else .ok value

/-- The paths among some settings are expanded, and everything else is as it was. -/
structure Expands (home : String) (names : List String) (config expanded : Config) : Prop where
  keys : expanded.keys = config.keys
  kept : ∀ entry ∈ config.entries, (∀ name ∈ names, entry.1 ≠ .text name) → entry ∈ expanded.entries
  paths : ∀ name ∈ names, ∀ value, (.text name, value) ∈ config.entries →
    ∃ path, expandedSetting home value = .ok path ∧ (.text name, path) ∈ expanded.entries

theorem apart_of_keys {other : Config} (hkeys : other.keys = config.keys)
    (h : Apart config.entries) : Apart other.entries := by
  rw [apart_iff_keys] at h ⊢
  rwa [← keys, hkeys]

/-- Expanding one path. -/
theorem expandPath_of_ok {path : Yaml} (hapart : Apart config.entries)
    (h : expandedSetting home (config.value name) = .ok path) :
    ∃ expanded, expandPath home name config = .ok expanded ∧
      Expands home [name] config expanded := by
  unfold expandedSetting at h
  by_cases htruthy : (config.value name).truthy = true
  · rw [if_pos htruthy] at h
    have hthere : .text name ∈ config.keys :=
      List.mem_map_of_mem (mem_of_value_ne_null fun hnull => by simp [hnull, truthy] at htruthy)
    refine ⟨config.put name path, by simp [expandPath, htruthy, h], keys_put hthere, ?_, ?_⟩
    · exact fun entry hentry hother => mem_put_of_ne hentry (hother name List.mem_cons_self)
    · rintro other hother value hvalue
      obtain rfl := List.mem_singleton.mp hother
      rw [← value_eq_of_mem hapart hvalue]
      exact ⟨path, by rw [expandedSetting, if_pos htruthy, h], mem_put_self⟩
  · refine ⟨config, by simp [expandPath, htruthy, pure, Except.pure], rfl,
      fun entry hentry _ => hentry, ?_⟩
    rintro other hother value hvalue
    obtain rfl := List.mem_singleton.mp hother
    rw [value_eq_of_mem hapart hvalue] at htruthy
    exact ⟨value, by rw [expandedSetting, if_neg htruthy], hvalue⟩

theorem expandPath_of_error {mistake : Mistake}
    (h : expandedSetting home (config.value name) = .error mistake) :
    expandPath home name config = .error mistake := by
  unfold expandedSetting at h
  split_ifs at h with htruthy
  rw [expandPath, if_pos htruthy, h]
  rfl

theorem value_of_not_mem (h : .text name ∉ config.keys) : config.value name = .null := by
  by_contra hvalue
  exact h (List.mem_map_of_mem (mem_of_value_ne_null hvalue))

/-- Every other setting keeps its value. -/
theorem Expands.value_eq {names : List String} (h : Expands home names config expanded)
    (hapart : Apart config.entries) (hother : name ∉ names) :
    expanded.value name = config.value name := by
  by_cases hthere : .text name ∈ config.keys
  · obtain ⟨⟨_, value⟩, hentry, rfl⟩ := List.mem_map.mp hthere
    have hkept := h.kept _ hentry fun other hmem hsame => by
      cases hsame
      exact hother hmem
    rw [value_eq_of_mem hapart hentry, value_eq_of_mem (apart_of_keys h.keys hapart) hkept]
  · rw [value_of_not_mem hthere, value_of_not_mem (h.keys ▸ hthere)]

theorem Expands.trans {names others : List String} {further : Config}
    (h : Expands home names config expanded) (h' : Expands home others expanded further)
    (hdisjoint : ∀ name ∈ names, name ∉ others) :
    Expands home (names ++ others) config further where
  keys := h'.keys.trans h.keys
  kept entry hentry hother :=
    h'.kept entry (h.kept entry hentry fun name hname => hother name (List.mem_append_left _ hname))
      fun name hname => hother name (List.mem_append_right _ hname)
  paths name hname value hvalue := by
    rcases List.mem_append.mp hname with hfirst | hsecond
    · obtain ⟨path, hpath, hmem⟩ := h.paths name hfirst value hvalue
      refine ⟨path, hpath, h'.kept _ hmem fun other hother hsame => ?_⟩
      cases hsame
      exact hdisjoint name hfirst hother
    · refine h'.paths name hsecond value (h.kept _ hvalue fun other hother hsame => ?_)
      cases hsame
      exact hdisjoint name hother hsecond

/-- Whether the paths among some settings can be expanded. -/
def Expandable (home : String) (config : Config) : Prop :=
  ∀ name ∈ pathSettings, ∃ path, expandedSetting home (config.value name) = .ok path

/-- Paths that can be expanded are. -/
theorem expandPaths_of_expandable (hapart : Apart config.entries) (h : Expandable home config) :
    ∃ expanded, config.expandPaths home = .ok expanded ∧
      Expands home pathSettings config expanded := by
  obtain ⟨path, hpath⟩ := h "kubeconfig" (by simp [pathSettings])
  obtain ⟨later, hlater⟩ := h "log_dir" (by simp [pathSettings])
  obtain ⟨between, hfirst, hbetween⟩ := expandPath_of_ok hapart hpath
  rw [← hbetween.value_eq hapart (by simp)] at hlater
  obtain ⟨expanded, hsecond, hexpanded⟩ :=
    expandPath_of_ok (apart_of_keys hbetween.keys hapart) hlater
  refine ⟨expanded, ?_, hbetween.trans hexpanded (by simp)⟩
  rw [expandPaths, hfirst]
  exact hsecond

/-- Where one cannot be, there are no settings. -/
theorem expandPaths_of_not_expandable (hapart : Apart config.entries)
    (h : ¬ Expandable home config) : ∃ mistake, config.expandPaths home = .error mistake := by
  cases hfirst : expandedSetting home (config.value "kubeconfig") with
  | error mistake =>
      refine ⟨mistake, ?_⟩
      rw [expandPaths, expandPath_of_error hfirst]
      rfl
  | ok path =>
      obtain ⟨between, hstep, hbetween⟩ := expandPath_of_ok hapart hfirst
      cases hsecond : expandedSetting home (config.value "log_dir") with
      | ok later =>
          refine absurd (fun name hname => ?_) h
          rcases List.mem_cons.mp hname with rfl | hrest
          · exact ⟨path, hfirst⟩
          · obtain rfl := List.mem_singleton.mp hrest
            exact ⟨later, hsecond⟩
      | error mistake =>
          rw [← hbetween.value_eq hapart (by simp)] at hsecond
          refine ⟨mistake, ?_⟩
          rw [expandPaths, hstep]
          exact expandPath_of_error hsecond

/-- The usual settings are left as they are. -/
theorem expandPaths_usual (home : String) : usual.expandPaths home = .ok usual := by
  rfl

/-! ## Settings that a mapping gives -/

/-- The settings that a mapping gives over the usual ones: its own entries, the usual ones that it
does not give, and nothing else. The paths are expanded. -/
structure Overrides (home : String) (given : List (Yaml × Yaml)) (config : Config) : Prop where
  taken : ∀ key value, (key, value) ∈ given → (∀ name ∈ pathSettings, key ≠ .text name) →
    (key, value) ∈ config.entries
  paths : ∀ name ∈ pathSettings, ∀ value, (Yaml.text name, value) ∈ given →
    ∃ path, expandedSetting home value = .ok path ∧ (.text name, path) ∈ config.entries
  left : ∀ entry ∈ usual.entries, entry.1 ∉ given.map (·.1) → entry ∈ config.entries
  only : ∀ entry ∈ config.entries, entry.1 ∈ usual.keys ∨ entry.1 ∈ given.map (·.1)
  known : usual.keys <+: config.keys
  apart : Apart config.entries

/-- A usual setting that is not given stays. -/
theorem mem_merge_usual (h : entry ∈ usual.entries) (hother : entry.1 ∉ given.map (·.1)) :
    entry ∈ (usual.merge given).entries := by
  refine mem_merge_of_mem h fun other hmem => eq_false_of_ne_true fun hsame => hother ?_
  rw [distinguishes_usual given entry h other hmem hsame]
  exact List.mem_map_of_mem hmem

/-- The usual paths have no tilde. -/
theorem expandedSetting_usual (h : (Yaml.text name, value) ∈ usual.entries)
    (hname : name ∈ pathSettings) : expandedSetting home value = .ok value := by
  simp only [usual, pathSettings, List.mem_cons, List.not_mem_nil, or_false] at h hname
  rcases hname with rfl | rfl <;> simp at h <;> rw [h] <;> rfl

/-- Only the paths that are given have to be looked at. -/
theorem expandable_merge_usual (hapart : Apart given)
    (h : ∀ name ∈ pathSettings, ∀ value, (Yaml.text name, value) ∈ given →
      ∃ path, expandedSetting home value = .ok path) : Expandable home (usual.merge given) := by
  intro name hname
  have hmerged : Apart (usual.merge given).entries := apart_merge apart_usual
  by_cases hgiven : Yaml.text name ∈ given.map (·.1)
  · obtain ⟨⟨_, value⟩, hmem, rfl⟩ := List.mem_map.mp hgiven
    rw [value_eq_of_mem hmerged (mem_merge_of_given (distinguishes_usual given) hapart hmem)]
    exact h name hname value hmem
  · obtain ⟨value, husual⟩ : ∃ value, (Yaml.text name, value) ∈ usual.entries := by
      simp only [pathSettings, List.mem_cons, List.not_mem_nil, or_false] at hname
      rcases hname with rfl | rfl <;> simp [usual]
    rw [value_eq_of_mem hmerged (mem_merge_usual husual hgiven)]
    exact ⟨value, expandedSetting_usual husual hname⟩

theorem overrides_of_expands (hapart : Apart given)
    (h : Expands home pathSettings (usual.merge given) config) : Overrides home given config where
  taken key value hgiven hother :=
    h.kept _ (mem_merge_of_given (distinguishes_usual given) hapart hgiven) hother
  paths name hname value hgiven :=
    h.paths name hname value (mem_merge_of_given (distinguishes_usual given) hapart hgiven)
  left entry hentry hother := by
    have hmerged := mem_merge_usual hentry hother
    by_cases hpath : ∃ name ∈ pathSettings, entry.1 = .text name
    · obtain ⟨name, hname, hkey⟩ := hpath
      obtain ⟨key, value⟩ := entry
      cases hkey
      obtain ⟨path, hexpanded, hmem⟩ := h.paths name hname value hmerged
      rw [expandedSetting_usual hentry hname] at hexpanded
      cases hexpanded
      exact hmem
    · exact h.kept entry hmerged fun name hname hkey => hpath ⟨name, hname, hkey⟩
  only entry hentry := by
    have hkey : entry.1 ∈ (usual.merge given).keys := h.keys ▸ List.mem_map_of_mem hentry
    obtain ⟨other, hother, hsame⟩ := List.mem_map.mp hkey
    rw [← hsame]
    exact key_of_mem_merge hother
  known := h.keys ▸ keys_prefix_merge usual given
  apart := apart_of_keys h.keys (apart_merge apart_usual)

end PodReach.Config
