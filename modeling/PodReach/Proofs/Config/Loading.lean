import Mathlib.Data.List.Nodup
import PodReach.Config.Files
import PodReach.Proofs.Config.Merge
import PodReach.Proofs.World.Markup
import PodReach.Proofs.World.Quiet

/-!
# Settings from a file

What becomes of a settings file. One that cannot be opened, or that breaks the rules of its format,
is reported and counts for nothing; one that holds nothing counts for nothing either; and the
entries of a mapping hold over the usual settings. A file that cannot be decoded, a scalar that is
none of its kind, a value that is not made up of entries and a path that cannot be expanded are not
reported: they end the run. So does a report that cannot be rendered, as it may quote the file. Of
the format only this is needed, that the keys of the mappings it reads are apart.
-/

namespace PodReach.Config

open Run World

/-! ## Plain values

Texts and whole numbers can be compared, so what a text denotes can be computed if it is made up of
these.
-/

/-- Entries with texts for keys and texts or whole numbers for values. -/
abbrev Plain : Type := List (String × (String ⊕ Int))

namespace Plain

/-- A text or a whole number as a value. -/
def value : String ⊕ Int → Yaml
  | .inl s => .text s
  | .inr n => .integer n

/-- The entries as those of a mapping. -/
def entries (plain : Plain) : List (Yaml × Yaml) :=
  plain.map fun (key, part) => (.text key, value part)

theorem exists_text (plain : Plain) : ∀ entry ∈ plain.entries, ∃ name, entry.1 = .text name := by
  intro entry hentry
  obtain ⟨⟨key, part⟩, -, rfl⟩ := List.mem_map.mp hentry
  exact ⟨key, rfl⟩

theorem nodup_entries {plain : Plain} (h : (plain.map (·.1)).Nodup) :
    (plain.entries.map (·.1)).Nodup := by
  have hkeys : plain.entries.map (·.1) = (plain.map (·.1)).map Yaml.text := by
    simp [entries]
  rw [hkeys]
  exact List.Nodup.map (fun _ _ hsame => Yaml.text.inj hsame) h

/-- A text or a whole number again, if a value is one. -/
def ofValue? : Yaml → Option (String ⊕ Int)
  | .text s => some (.inl s)
  | .integer n => some (.inr n)
  | _ => none

/-- An entry as data that can be compared, if it has such a key and value. -/
def ofEntry? : Yaml × Yaml → Option (String × (String ⊕ Int))
  | (.text key, held) => (ofValue? held).map (key, ·)
  | _ => none

/-- The value that was read, if it is a text or a whole number. -/
def ofScalar? : Except Yaml.Defect Yaml → Option (String ⊕ Int)
  | .ok held => ofValue? held
  | _ => none

/-- The entries of a mapping that was read, if all are such. -/
def of? : Except Yaml.Defect Yaml → Option Plain
  | .ok (.map entries) => entries.mapM ofEntry?
  | _ => none

/-- Whether what was read breaks the rules of the format. -/
def isMalformed : Except Yaml.Defect Yaml → Bool
  | .error .malformed => true
  | _ => false

variable {outcome : Except Yaml.Defect Yaml} {part : String ⊕ Int}

theorem eq_of_isMalformed (h : isMalformed outcome = true) : outcome = .error .malformed := by
  unfold isMalformed at h
  split at h
  · rfl
  · cases h

theorem eq_of_ofValue?_eq_some {held : Yaml} (h : ofValue? held = some part) :
    held = value part := by
  unfold ofValue? at h
  split at h <;> cases h <;> rfl

theorem eq_of_ofEntry?_eq_some {entry : Yaml × Yaml} {plain : String × (String ⊕ Int)}
    (h : ofEntry? entry = some plain) : entry = (.text plain.1, value plain.2) := by
  obtain ⟨key, held⟩ := entry
  cases key with
  | text key =>
      obtain ⟨part, hpart, rfl⟩ := Option.map_eq_some_iff.mp h
      exact congrArg (Yaml.text key, ·) (eq_of_ofValue?_eq_some hpart)
  | _ => cases h

theorem eq_of_ofScalar?_eq_some (h : ofScalar? outcome = some part) :
    outcome = .ok (value part) := by
  cases outcome with
  | error defect => cases h
  | ok held => exact congrArg Except.ok (eq_of_ofValue?_eq_some h)

theorem eq_of_of?_eq_some {plain : Plain} (h : of? outcome = some plain) :
    outcome = .ok (.map plain.entries) := by
  unfold of? at h
  split at h
  · next held =>
    congr 2
    induction held generalizing plain with
    | nil =>
        cases h
        rfl
    | cons entry rest ih =>
        simp only [List.mapM_cons, Option.pure_def, Option.bind_eq_bind, Option.bind_eq_some_iff,
          Option.some.injEq] at h
        obtain ⟨part, hpart, later, hlater, rfl⟩ := h
        rw [eq_of_ofEntry?_eq_some hpart, ih hlater]
        rfl
  · cases h

end Plain

/-! ## What lies at a path -/

/-- No key of a mapping that is read is the same as a later one. -/
def Format.KeepsApart (format : Format) : Prop :=
  ∀ text entries, format.read text = .ok (.map entries) → Yaml.Apart entries

theorem keepsApart_yamlFormat : yamlFormat.KeepsApart :=
  fun _ _ => Yaml.apart_of_read

/-- Settings that cannot be opened, or that break the rules of the format. -/
inductive Unreadable (format : Format) : Lying → Prop
  | directory : Unreadable format .directory
  | locked : Unreadable format .locked
  | malformed {lying : Lying} {text : String} (htext : lying.read = .ok text)
    (h : format.read text = .error .malformed) : Unreadable format lying

/-- Settings that denote a value. A device denotes what an empty file does. -/
inductive Denotes (format : Format) (lying : Lying) (value : Yaml) : Prop
  | read {text : String} (htext : lying.read = .ok text) (h : format.read text = .ok value)

/-- Settings that cannot be decoded, or with a scalar that is none of its kind. -/
inductive Undecodable (format : Format) : Lying → Prop
  | garbled : Undecodable format .garbled
  | scalar {lying : Lying} {text : String} {mistake : Mistake} (htext : lying.read = .ok text)
    (h : format.read text = .error (.mistake mistake)) : Undecodable format lying

/-- Settings that end the run, whatever can be rendered. -/
inductive Spoils (format : Format) (home : String) (lying : Lying) : Prop
  | undecodable (h : Undecodable format lying)
  | shapeless {value : Yaml} {mistake : Mistake} (h : Denotes format lying value)
    (hentries : entriesOf value = .error mistake)
  | misplaced {value : Yaml} {entries : List (Yaml × Yaml)} (h : Denotes format lying value)
    (hentries : entriesOf value = .ok entries) (hpaths : ¬ Expandable home (usual.merge entries))

variable {format : Format} {w : World} {path : String} {lying : Lying} {value : Yaml}
  {entries : List (Yaml × Yaml)} {asks : Bool}

theorem unreadable_or_denotes_of_read {text : String} (htext : lying.read = .ok text) :
    Unreadable format lying ∨ (∃ value, Denotes format lying value) ∨ Undecodable format lying := by
  cases hread : format.read text with
  | ok value => exact Or.inr (Or.inl ⟨value, .read htext hread⟩)
  | error defect =>
      cases defect with
      | malformed => exact Or.inl (.malformed htext hread)
      | mistake mistake => exact Or.inr (Or.inr (.scalar htext hread))

theorem unreadable_or_denotes_or_undecodable (format : Format) (lying : Lying) :
    Unreadable format lying ∨ (∃ value, Denotes format lying value) ∨ Undecodable format lying := by
  cases lying with
  | directory => exact Or.inl .directory
  | locked => exact Or.inl .locked
  | garbled => exact Or.inr (Or.inr .garbled)
  | sink => exact unreadable_or_denotes_of_read rfl
  | file text => exact unreadable_or_denotes_of_read rfl

theorem Unreadable.valueOf?_eq (h : Unreadable format lying) :
    format.valueOf? (some lying) = .ok none := by
  cases h with
  | directory => rfl
  | locked => rfl
  | malformed htext h => simp [Format.valueOf?, htext, h]

theorem Denotes.valueOf?_eq (h : Denotes format lying value) :
    format.valueOf? (some lying) = .ok (some value) := by
  obtain ⟨htext, h⟩ := h
  simp [Format.valueOf?, htext, h]

theorem Undecodable.valueOf?_eq (h : Undecodable format lying) :
    ∃ mistake, format.valueOf? (some lying) = .error mistake := by
  cases h with
  | garbled => exact ⟨_, rfl⟩
  | scalar htext h => exact ⟨_, by simp [Format.valueOf?, htext, h]; rfl⟩

/-- No key of a mapping that is denoted is the same as a later one. -/
theorem Denotes.apart (hformat : format.KeepsApart) (h : Denotes format lying (.map entries)) :
    Yaml.Apart entries := by
  obtain ⟨-, h⟩ := h
  exact hformat _ _ h

/-! ## Loading -/

/-- The line that reports the settings file at a path. -/
def unreadableLine (w : World) (path : String) : String :=
  "[yellow]⚠️  主人，" ++ s!"读取配置文件失败: {complaintAbout w path}" ++ "[/yellow]"

theorem fileAt?_of_find? (h : find? w = some path) : ∃ lying, w.fileAt? path = some lying := by
  have hexists : w.existsAt path = true := List.find?_some h
  exact Option.isSome_iff_exists.mp hexists

theorem load_of_find? (h : find? w = some path) : load format asks w =
    (do let config ← readFrom format path
        orHalt (config.expandPaths (← get).home) : Run Config) w := by
  unfold load
  rw [bind_of_ok (get_apply w)]
  dsimp only
  rw [h]

/-- A value that stands for entries gives settings, if their paths can be expanded. -/
theorem load_of_value (hfind : find? w = some path)
    (hvalue : format.valueOf? (w.fileAt? path) = .ok (some value))
    (hentries : entriesOf value = .ok entries) :
    load format asks w =
      (match (usual.merge entries).expandPaths w.home with
        | .ok config => .ok config
        | .error mistake => .error (.mistake mistake), w) := by
  have hread : readFrom format path w = (.ok (usual.merge entries), w) := by
    unfold readFrom
    rw [bind_of_ok (get_apply w), hvalue]
    change (do return usual.merge (← orHalt (entriesOf value)) : Run Config) w = _
    rw [hentries]
    rfl
  rw [load_of_find? hfind, bind_of_ok hread, bind_of_ok (get_apply _)]
  cases (usual.merge entries).expandPaths w.home <;> rfl

theorem readFrom_of_unreadable (hlying : w.fileAt? path = some lying)
    (h : Unreadable format lying) : readFrom format path w =
      (do warnUnreadable (complaintAbout w path)
          return usual : Run Config) w := by
  unfold readFrom
  rw [bind_of_ok (get_apply w), hlying, h.valueOf?_eq]
  change (do warnUnreadable (complaintAbout (← get) path); return usual : Run Config) w = _
  rw [bind_of_ok (get_apply w)]

/-- A file that is reported counts for nothing. -/
theorem load_of_unreadable (hfind : find? w = some path) (hlying : w.fileAt? path = some lying)
    (hcalm : w.interruptOn = none) (h : Unreadable format lying)
    (hline : w.markup.renders (unreadableLine w path) = true) :
    load format asks w = (.ok usual, w.noted [.display (.line (unreadableLine w path))]) := by
  have hwarn : warnUnreadable (complaintAbout w path) w =
      (.ok (), w.noted [.display (.line (unreadableLine w path))]) := line_of_calm hline hcalm
  have hread : readFrom format path w =
      (.ok usual, w.noted [.display (.line (unreadableLine w path))]) := by
    rw [readFrom_of_unreadable hlying h, bind_of_ok hwarn]
    rfl
  rw [load_of_find? hfind, bind_of_ok hread, bind_of_ok (get_apply _), expandPaths_usual]
  rfl

/-- A report that cannot be rendered ends the run. -/
theorem load_of_unrendered (hfind : find? w = some path) (hlying : w.fileAt? path = some lying)
    (h : Unreadable format lying) (hline : w.markup.renders (unreadableLine w path) = false) :
    load format asks w = (.error (.unrendered (unreadableLine w path)), w) := by
  have hwarn : warnUnreadable (complaintAbout w path) w =
      (.error (.unrendered (unreadableLine w path)), w) := line_of_unrendered hline
  have hread : readFrom format path w = (.error (.unrendered (unreadableLine w path)), w) := by
    rw [readFrom_of_unreadable hlying h, bind_of_error hwarn]
  rw [load_of_find? hfind, bind_of_error hread]

theorem load_of_denotes (hfind : find? w = some path) (hlying : w.fileAt? path = some lying)
    (h : Denotes format lying value) (hentries : entriesOf value = .ok entries) :
    load format asks w =
      (match (usual.merge entries).expandPaths w.home with
        | .ok config => .ok config
        | .error mistake => .error (.mistake mistake), w) :=
  load_of_value hfind (by rw [hlying, h.valueOf?_eq]) hentries

/-- A value that stands for no entries ends the run. -/
theorem load_of_shapeless {mistake : Mistake} (hfind : find? w = some path)
    (hlying : w.fileAt? path = some lying) (h : Denotes format lying value)
    (hentries : entriesOf value = .error mistake) :
    load format asks w = (.error (.mistake mistake), w) := by
  have hread : readFrom format path w = (.error (.mistake mistake), w) := by
    unfold readFrom
    rw [bind_of_ok (get_apply w), hlying, h.valueOf?_eq]
    change (do return usual.merge (← orHalt (entriesOf value)) : Run Config) w = _
    rw [hentries]
    rfl
  rw [load_of_find? hfind, bind_of_error hread]

/-- What cannot be decoded ends the run. -/
theorem load_of_undecodable (hfind : find? w = some path) (hlying : w.fileAt? path = some lying)
    (h : Undecodable format lying) :
    ∃ mistake, load format asks w = (.error (.mistake mistake), w) := by
  obtain ⟨mistake, hmistake⟩ := h.valueOf?_eq
  have hread : readFrom format path w = (.error (.mistake mistake), w) := by
    unfold readFrom
    rw [bind_of_ok (get_apply w), hlying, hmistake]
    rfl
  exact ⟨mistake, by rw [load_of_find? hfind, bind_of_error hread]⟩

/-- Settings that end the run do so by a mistake. -/
theorem load_of_spoils (hfind : find? w = some path) (hlying : w.fileAt? path = some lying)
    (h : Spoils format w.home lying) :
    ∃ mistake, load format asks w = (.error (.mistake mistake), w) := by
  cases h with
  | undecodable h => exact load_of_undecodable hfind hlying h
  | shapeless h hentries => exact ⟨_, load_of_shapeless hfind hlying h hentries⟩
  | misplaced h hentries hpaths =>
      obtain ⟨mistake, hmistake⟩ :=
        expandPaths_of_not_expandable (apart_merge apart_usual) hpaths
      exact ⟨mistake, by rw [load_of_denotes hfind hlying h hentries, hmistake]⟩

/-- Entries whose paths can be expanded give settings. -/
theorem load_of_expandable (hfind : find? w = some path) (hlying : w.fileAt? path = some lying)
    (h : Denotes format lying value) (hentries : entriesOf value = .ok entries)
    (hpaths : Expandable w.home (usual.merge entries)) :
    ∃ config, load format asks w = (.ok config, w) ∧
      Expands w.home pathSettings (usual.merge entries) config := by
  obtain ⟨config, hconfig, hexpands⟩ :=
    expandPaths_of_expandable (apart_merge apart_usual) hpaths
  exact ⟨config, by rw [load_of_denotes hfind hlying h hentries, hconfig], hexpands⟩

/-- All other settings are loaded, and no setting is missing, if what has to be reported can be
rendered. -/
theorem load_of_not_spoils (hfind : find? w = some path) (hlying : w.fileAt? path = some lying)
    (hcalm : w.interruptOn = none) (h : ¬ Spoils format w.home lying)
    (hline : Unreadable format lying → w.markup.renders (unreadableLine w path) = true) :
    ∃ config w', load format asks w = (.ok config, w') ∧ usual.keys <+: config.keys := by
  rcases unreadable_or_denotes_or_undecodable format lying with
    hunreadable | ⟨value, hvalue⟩ | hundecodable
  · exact ⟨_, _, load_of_unreadable hfind hlying hcalm hunreadable (hline hunreadable),
      List.prefix_refl _⟩
  · cases hentries : entriesOf value with
    | error mistake => exact absurd (.shapeless hvalue hentries) h
    | ok entries =>
        by_cases hpaths : Expandable w.home (usual.merge entries)
        · obtain ⟨config, hload, hexpands⟩ := load_of_expandable hfind hlying hvalue hentries hpaths
          exact ⟨config, w, hload, hexpands.keys ▸ keys_prefix_merge usual entries⟩
        · exact absurd (.misplaced hvalue hentries hpaths) h
  · exact absurd (.undecodable hundecodable) h

theorem entriesOf_of_not_truthy (h : value.truthy = false) : entriesOf value = .ok [] := by
  simp [entriesOf, h]

theorem entriesOf_map (entries : List (Yaml × Yaml)) : entriesOf (.map entries) = .ok entries := by
  cases entries <;> rfl

/-- A settings file that cannot be opened or breaks the rules of its format is reported, and one
that holds nothing is not; the usual settings hold either way. The entries of a mapping hold over
them. Whatever lies there, it gives every usual setting a value or ends the run. It ends the run by
a mistake exactly if it cannot be decoded, if a scalar is none of its kind, if its value is not
made up of entries, or if a path cannot be expanded; otherwise only a report that cannot be
rendered ends it. -/
theorem load_of_file (format : Format) (asks : Bool) (hfind : find? w = some path)
    (hcalm : w.interruptOn = none) (hformat : format.KeepsApart) :
    ∃ lying, w.fileAt? path = some lying ∧
      (Unreadable format lying → w.markup.renders (unreadableLine w path) = true →
        load format asks w = (.ok usual, w.noted [.display (.line (unreadableLine w path))])) ∧
      (Unreadable format lying → w.markup.renders (unreadableLine w path) = false →
        load format asks w = (.error (.unrendered (unreadableLine w path)), w)) ∧
      (∀ value, Denotes format lying value → value.truthy = false →
        load format asks w = (.ok usual, w)) ∧
      (∀ entries, Denotes format lying (.map entries) →
        (∀ name ∈ pathSettings, ∀ value, (Yaml.text name, value) ∈ entries →
          ∃ path, expandedSetting w.home value = .ok path) →
        ∃ config, load format asks w = (.ok config, w) ∧ Overrides w.home entries config) ∧
      (∀ value entries, Denotes format lying value → entriesOf value = .ok entries →
        Expandable w.home (usual.merge entries) →
        ∃ config, load format asks w = (.ok config, w) ∧
          Expands w.home pathSettings (usual.merge entries) config) ∧
      (Spoils format w.home lying →
        ∃ mistake, load format asks w = (.error (.mistake mistake), w)) ∧
      (¬ Spoils format w.home lying →
        (Unreadable format lying → w.markup.renders (unreadableLine w path) = true) →
        ∃ config w', load format asks w = (.ok config, w') ∧ usual.keys <+: config.keys) := by
  obtain ⟨lying, hlying⟩ := fileAt?_of_find? hfind
  refine ⟨lying, hlying, load_of_unreadable hfind hlying hcalm,
    load_of_unrendered hfind hlying, fun value hvalue hfalse => ?_,
    fun entries hentries hpaths => ?_, fun value entries hvalue hentries hpaths => ?_,
    load_of_spoils hfind hlying, load_of_not_spoils hfind hlying hcalm⟩
  · rw [load_of_denotes hfind hlying hvalue (entriesOf_of_not_truthy hfalse)]
    exact congrArg (·, w) (by rw [show usual.merge [] = usual from rfl, expandPaths_usual])
  · have hapart := hentries.apart hformat
    obtain ⟨config, hload, hexpands⟩ := load_of_expandable hfind hlying hentries
      (entriesOf_map entries) (expandable_merge_usual hapart hpaths)
    exact ⟨config, hload, overrides_of_expands hapart hexpands⟩
  · exact load_of_expandable hfind hlying hvalue hentries hpaths

/-- A mapping may give a setting of its own, and the usual ones hold beside it. -/
theorem load_of_file_one_entry :
    let w := { World.empty with files := [("<CWD>/.devkubeconfig", .file "a: 5")] }
    ∃ config, load yamlFormat true w = (.ok config, w) ∧
      (.text "a", .integer 5) ∈ config.entries ∧
      (.text "max_wait", .integer 120) ∈ config.entries := by
  intro w
  have hfind : find? w = some "<CWD>/.devkubeconfig" := by decide +kernel
  have hplain : Plain.of? (Yaml.read "a: 5") = some [("a", .inr 5)] := by decide +kernel
  have hread : Yaml.read "a: 5" = .ok (.map [(.text "a", .integer 5)]) :=
    Plain.eq_of_of?_eq_some hplain
  obtain ⟨lying, hlying, -, -, -, hmapping, -⟩ :=
    load_of_file yamlFormat true hfind rfl keepsApart_yamlFormat
  obtain rfl : lying = .file "a: 5" := by
    have hfile : w.fileAt? "<CWD>/.devkubeconfig" = some (.file "a: 5") := by decide +kernel
    exact Option.some.inj (hlying.symm.trans hfile)
  obtain ⟨config, hload, hconfig⟩ := hmapping _ (.read rfl hread) (by simp [pathSettings])
  refine ⟨config, hload, hconfig.taken _ _ List.mem_cons_self (by simp [pathSettings]), ?_⟩
  exact hconfig.left _ (by simp [usual]) (by simp)

/-- A number is neither a mapping nor empty, and it is not reported. -/
theorem load_of_number :
    let w := { World.empty with files := [("<CWD>/.devkubeconfig", .file "5")] }
    find? w = some "<CWD>/.devkubeconfig" ∧ Yaml.read "5" = .ok (.integer 5) ∧
      load yamlFormat false w = (.error (.mistake .wrongKind), w) := by
  intro w
  have hfind : find? w = some "<CWD>/.devkubeconfig" := by decide +kernel
  have hlying : w.fileAt? "<CWD>/.devkubeconfig" = some (.file "5") := by decide +kernel
  have hscalar : Plain.ofScalar? (Yaml.read "5") = some (.inr 5) := by decide +kernel
  have hread : Yaml.read "5" = .ok (.integer 5) := Plain.eq_of_ofScalar?_eq_some hscalar
  exact ⟨hfind, hread, load_of_shapeless hfind hlying (.read rfl hread) rfl⟩

/-- What is wrong with a file may quote it, and what is quoted may close a tag that was never
opened. Then the file is not reported but ends the run. -/
theorem load_of_quoted_tag :
    let w := { World.empty with
      files := [("<CWD>/.devkubeconfig", .file "!<[/x]> 5")]
      complaint := fun _ _ => "could not determine a constructor for the tag '[/x]'"
      markup := .strict }
    ∃ line, load yamlFormat false w = (.error (.unrendered line), w) := by
  intro w
  have hfind : find? w = some "<CWD>/.devkubeconfig" := by decide +kernel
  have hlying : w.fileAt? "<CWD>/.devkubeconfig" = some (.file "!<[/x]> 5") := by decide +kernel
  have hread : Yaml.read "!<[/x]> 5" = .error .malformed :=
    Plain.eq_of_isMalformed (by decide +kernel)
  exact ⟨_, load_of_unrendered hfind hlying (.malformed rfl hread) (by decide +kernel)⟩

end PodReach.Config
