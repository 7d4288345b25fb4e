import PodReach.Proofs.World.Prompts
import PodReach.World.Path

/-!
# What a written file changes

A file is written where a path leads, if no directory lies there. Afterwards its text lies at that
place, and everything else lies where it lay: since every part of the way was a directory before,
no directory comes into being and none goes away, so every path leads where it led. Asking someone
and showing something change nothing about files.
-/

namespace PodReach

namespace Path

variable {isDirectory : List String → Bool} {here place ending : List String} {part : String}
  {steps : List String}

theorem follow_eq_some (h : follow isDirectory here steps = some place) :
    place = steps.foldl enter here := by
  induction steps generalizing here with
  | nil => exact (Option.some.inj h).symm
  | cons part rest ih =>
      simp only [follow, Option.ite_none_right_eq_some] at h
      exact ih h.2

/-- What a place lies in after one more part is what it lay in before, or the place before. -/
theorem suffix_of_suffix_enter (h : ending <:+ enter here part) (hne : ending ≠ enter here part) :
    ending <:+ here := by
  unfold enter at h hne
  split at h
  · exact h
  · split at h
    · exact h.trans (List.tail_suffix here)
    · rw [if_neg ‹_›, if_neg ‹_›] at hne
      exact (List.suffix_cons_iff.mp h).resolve_left hne

/-- Everything that a place lies in is a directory if the place was reached part by part. -/
theorem isDirectory_of_follow (h : follow isDirectory here steps = some place)
    (hhere : ∀ ending, ending <:+ here → ending ≠ here → isDirectory ending = true) :
    ∀ ending, ending <:+ place → ending ≠ place → isDirectory ending = true := by
  induction steps generalizing here with
  | nil =>
      obtain rfl := Option.some.inj h
      exact hhere
  | cons part rest ih =>
      simp only [follow, Option.ite_none_right_eq_some, Bool.and_eq_true] at h
      refine ih h.2 fun ending hending hne => ?_
      have hbefore := suffix_of_suffix_enter hending hne
      by_cases hsame : ending = here
      · rw [hsame]
        exact h.1.1
      · exact hhere ending hbefore hsame

end Path

namespace World

variable {w w' : World} {path other text : String} {place reached : List String}

/-- Two worlds in which every path leads to the same. -/
structure SamePlaces (w w' : World) : Prop where
  files : w'.files = w.files
  home : w'.home = w.home
  directory : w'.directory = w.directory
  settingsPath : w'.settingsPath = w.settingsPath

namespace SamePlaces

theorem refl (w : World) : SamePlaces w w :=
  ⟨rfl, rfl, rfl, rfl⟩

theorem trans {w'' : World} (h : SamePlaces w w') (h' : SamePlaces w' w'') : SamePlaces w w'' :=
  ⟨h'.files.trans h.files, h'.home.trans h.home, h'.directory.trans h.directory,
    h'.settingsPath.trans h.settingsPath⟩

instance : Std.Refl SamePlaces :=
  ⟨refl⟩

instance : IsTrans World SamePlaces :=
  ⟨fun _ _ _ => trans⟩

theorem lyingAt?_eq (h : SamePlaces w w') : w'.lyingAt? = w.lyingAt? := by
  funext place
  simp only [lyingAt?, h.files, h.home, h.directory]

theorem fullPath_eq (h : SamePlaces w w') : w'.fullPath = w.fullPath := by
  funext directory path
  unfold fullPath isAbsolute
  rw [h.home, h.directory]

theorem placeOf?_eq (h : SamePlaces w w') : w'.placeOf? = w.placeOf? := by
  have hdirectory : w'.isDirectoryAt = w.isDirectoryAt := by
    funext place
    rw [isDirectoryAt, isDirectoryAt, h.lyingAt?_eq]
  funext path
  rw [placeOf?, placeOf?, h.fullPath_eq, h.directory, hdirectory]

theorem fileAt?_eq (h : SamePlaces w w') : w'.fileAt? = w.fileAt? := by
  funext path
  rw [fileAt?, fileAt?, h.placeOf?_eq, h.lyingAt?_eq]

end SamePlaces

/-- Writing a file changes nothing but the files. -/
theorem write?_eq_some (h : w.write? path text = some w') :
    ∃ files, w' = { w with files := files } := by
  simp only [write?, Option.bind_eq_bind, Option.bind_eq_some_iff] at h
  obtain ⟨place, -, h⟩ := h
  split at h
  all_goals cases h
  · exact ⟨w.files, rfl⟩
  all_goals exact ⟨_, rfl⟩

/-- A text can be written where a path leads, if nothing lies there. -/
theorem exists_write? (text : String) (hplace : w.placeOf? path = some place)
    (hnothing : w.fileAt? path = none) : ∃ w', w.write? path text = some w' := by
  rw [fileAt?, hplace] at hnothing
  have hfree : w.lyingAt? place = none := hnothing
  refine ⟨w.withFile (w.fullPath w.directory path) text, ?_⟩
  simp [write?, hplace, hfree]

/-- Where a text was written something could be reached. -/
theorem exists_placeOf?_of_write? (h : w.write? path text = some w') :
    ∃ place, w.placeOf? path = some place := by
  simp only [write?, Option.bind_eq_bind, Option.bind_eq_some_iff] at h
  exact ⟨h.choose, h.choose_spec.1⟩

/-- A path leads to the place that its parts name, through directories. -/
theorem placeOf?_eq_some (h : w.placeOf? path = some place) :
    Path.parts (w.fullPath w.directory path) = place ∧
      ∀ way, way <+: place → way ≠ place → w.lyingAt? way = some .directory := by
  unfold placeOf? at h
  split at h
  · cases h
  · obtain ⟨here, hfollow, rfl⟩ := Option.map_eq_some_iff.mp h
    refine ⟨by rw [Path.follow_eq_some hfollow]; rfl, fun way hway hne => ?_⟩
    have hdirectory := Path.isDirectory_of_follow hfollow
      (fun ending hending hne => absurd (List.eq_nil_of_suffix_nil hending) hne)
      way.reverse (List.reverse_prefix.mp (by simpa using hway))
      fun hsame => hne (by simp [← hsame])
    simpa [isDirectoryAt] using hdirectory

/-- What is listed below a place after a file was written. -/
theorem lists_withFile (place : List String) :
    (w.withFile path text).files.any (fun (name, _) => place.isPrefixOf (Path.parts name)) =
      (place.isPrefixOf (Path.parts path) ||
        w.files.any fun (name, _) => place.isPrefixOf (Path.parts name)) := by
  rw [Bool.eq_iff_iff]
  simp only [withFile, List.any_cons, List.any_filter, Bool.or_eq_true, List.any_eq_true,
    Bool.and_eq_true]
  constructor
  · rintro (hnew | ⟨entry, hentry, -, hlists⟩)
    · exact Or.inl hnew
    · exact Or.inr ⟨entry, hentry, hlists⟩
  · rintro (hnew | ⟨entry, hentry, hlists⟩)
    · exact Or.inl hnew
    · by_cases hname : entry.1 = path
      · exact Or.inl (hname ▸ hlists)
      · exact Or.inr ⟨entry, hentry, by simpa using hname, hlists⟩

theorem find?_withFile (hplace : place ≠ Path.parts path) :
    (w.withFile path text).files.find? (fun (name, _) => Path.parts name == place) =
      w.files.find? fun (name, _) => Path.parts name == place := by
  have hother : (Path.parts path == place) = false := beq_eq_false_iff_ne.mpr (Ne.symm hplace)
  simp only [withFile, List.find?_cons, hother, List.find?_filter]
  congr 1
  funext entry
  rw [Bool.eq_iff_iff]
  by_cases hname : entry.1 = path <;> simp [hname, Ne.symm hplace]

/-- A file that is written lies at its place; elsewhere lies what lay there before. -/
theorem lyingAt?_withFile
    (hways : ∀ way, way <+: Path.parts path → way ≠ Path.parts path →
      w.lyingAt? way = some .directory) (place : List String) :
    (w.withFile path text).lyingAt? place =
      if place = Path.parts path then some (.file text) else w.lyingAt? place := by
  by_cases hplace : place = Path.parts path
  · simp [lyingAt?, withFile, hplace]
  · rw [if_neg hplace]
    have hway := hways place
    unfold lyingAt? at hway ⊢
    rw [find?_withFile hplace]
    cases hlisted : w.files.find? fun (name, _) => Path.parts name == place with
    | some entry => rfl
    | none =>
        rw [hlisted] at hway
        dsimp only at hway ⊢
        rw [lists_withFile]
        cases hnew : place.isPrefixOf (Path.parts path) with
        | false => rfl
        | true =>
            have hdirectory := hway (List.isPrefixOf_iff_prefix.mp hnew) hplace
            rw [hdirectory]
            simp

/-- Writing a file where no directory lies leaves every path leading where it led. -/
theorem placeOf?_withFile
    (hways : ∀ way, way <+: Path.parts path → way ≠ Path.parts path →
      w.lyingAt? way = some .directory)
    (hfree : w.lyingAt? (Path.parts path) ≠ some .directory) :
    (w.withFile path text).placeOf? = w.placeOf? := by
  have hdirectories : (w.withFile path text).isDirectoryAt = w.isDirectoryAt := by
    funext here
    unfold isDirectoryAt
    rw [lyingAt?_withFile hways]
    split
    · rename_i hplace
      rw [hplace, beq_eq_false_iff_ne.mpr hfree]
      rfl
    · rfl
  funext other
  unfold placeOf?
  rw [hdirectories]
  rfl

/-- After a text was written where nothing lay, it is found by every path that leads there, and
everything else is found where it was. -/
theorem fileAt?_write? (hplace : w.placeOf? path = some place) (hnothing : w.fileAt? path = none)
    (h : w.write? path text = some w') (other : String) :
    w'.fileAt? other =
      if w.placeOf? other = some place then some (.file text) else w.fileAt? other := by
  obtain ⟨hparts, hways⟩ := placeOf?_eq_some hplace
  have hfree : w.lyingAt? place = none := by
    rw [fileAt?, hplace] at hnothing
    exact hnothing
  obtain rfl : w.withFile (w.fullPath w.directory path) text = w' := by
    simpa [write?, hplace, hfree] using h
  subst hparts
  have hreached : (w.withFile _ text).placeOf? = w.placeOf? :=
    placeOf?_withFile hways (by simp [hfree])
  unfold fileAt?
  rw [hreached]
  cases hother : w.placeOf? other with
  | none => simp
  | some reached =>
      simp only [Option.bind_some, Option.some.injEq]
      exact lyingAt?_withFile hways reached

end World

/-! ## Asking and showing -/

section SamePlaces

open Run World

variable {α : Type}

theorem samePlaces_record (entry : Entry) : Keeps SamePlaces (record entry) :=
  fun _ => ⟨rfl, rfl, rfl, rfl⟩

theorem samePlaces_line (text : String) : Keeps SamePlaces (Console.line text) :=
  Console.keeps_line (samePlaces_record _) fun _ => ⟨rfl, rfl, rfl, rfl⟩

theorem samePlaces_choose (message : String) (choices : List (String × α))
    (preset : Option String) : Keeps SamePlaces (Console.choose message choices preset) := by
  intro w
  rw [Console.choose_apply]
  exact ⟨rfl, rfl, rfl, rfl⟩

theorem samePlaces_ask (message : String) : Keeps SamePlaces (Console.ask message) := by
  intro w
  rw [Console.ask_apply]
  exact ⟨rfl, rfl, rfl, rfl⟩

theorem samePlaces_askNumber (message : String) (preset low high : Int) :
    Keeps SamePlaces (Console.askNumber message preset low high) := by
  intro w
  rw [Console.askNumber_apply]
  exact ⟨rfl, rfl, rfl, rfl⟩

end SamePlaces

end PodReach
