import PodReach.Proofs.World.Steps

/-!
# What was written down

A run only ever adds to its journal. What it added is read off two worlds, the one it began in and
the one it left.
-/

namespace PodReach

namespace World

variable {w w' w'' : World}

/-- The world after something was written down. -/
def noted (w : World) (entries : List Entry) : World :=
  { w with journal := w.journal ++ entries }

@[simp]
theorem noted_nil (w : World) : w.noted [] = w := by
  simp [noted]

@[simp]
theorem journal_noted (w : World) (entries : List Entry) :
    (w.noted entries).journal.toList = w.journal.toList ++ entries := by
  simp [noted]

@[simp]
theorem noted_noted (w : World) (entries later : List Entry) :
    (w.noted entries).noted later = w.noted (entries ++ later) := by
  have hjournal : w.journal ++ entries ++ later = w.journal ++ (entries ++ later) :=
    Array.ext' (by simp)
  simp only [noted, hjournal]

/-- What was written down after a world. -/
def entriesSince (w w' : World) : List Entry :=
  w'.journal.toList.drop w.journal.size

/-- A text that is read off the entries between two worlds. -/
def textSince (read : Entry → List Char) (w w' : World) : List Char :=
  (entriesSince w w').flatMap read

theorem entriesSince_eq {entries : List Entry}
    (h : w'.journal.toList = w.journal.toList ++ entries) : entriesSince w w' = entries := by
  rw [entriesSince, h]
  simp

theorem textSince_eq {entries : List Entry} (read : Entry → List Char)
    (h : w'.journal.toList = w.journal.toList ++ entries) :
    textSince read w w' = entries.flatMap read := by
  rw [textSince, entriesSince_eq h]

/-- What is written down later comes later. -/
theorem entriesSince_append {entries : List Entry}
    (hgrown : w.journal.toList <+: w'.journal.toList)
    (h : w''.journal.toList = w'.journal.toList ++ entries) :
    entriesSince w w'' = entriesSince w w' ++ entries := by
  obtain ⟨earlier, hearlier⟩ := hgrown
  rw [entriesSince_eq hearlier.symm]
  exact entriesSince_eq (by rw [h, ← hearlier, List.append_assoc])

theorem textSince_append {entries : List Entry} (read : Entry → List Char)
    (hgrown : w.journal.toList <+: w'.journal.toList)
    (h : w''.journal.toList = w'.journal.toList ++ entries) :
    textSince read w w'' = textSince read w w' ++ entries.flatMap read := by
  rw [textSince, entriesSince_append hgrown h, List.flatMap_append]
  rfl

end World

theorem Run.record_apply (entry : Entry) (w : World) :
    record entry w = (.ok (), w.noted [entry]) := by
  simp [World.noted]
  rfl

theorem Log.write_apply (level : Level) (text : String) (w : World) :
    Log.write level text w = (.ok (), w.noted [.log level text]) :=
  Run.record_apply _ w

end PodReach
