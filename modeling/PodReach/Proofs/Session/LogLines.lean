import PodReach.Proofs.Text.Blank
import PodReach.Proofs.Text.Utf8
import PodReach.Proofs.World.Steps
import PodReach.Session.LogLines

/-!
# The lines of a log

Reading a log by pieces keeps two things between them, an unfinished character and an unfinished
line. Both are carried across every cut, so the lines are those of the whole text, and when the
connection breaks only what is unfinished is lost.
-/

namespace PodReach

namespace Text

/-- The last piece of a text goes on with what is appended. -/
theorem splitOn_append (sep : Char) (text more : List Char) :
    (text ++ more).splitOn sep = (text.splitOn sep).dropLast ++
      ((text.splitOn sep).getLastD [] ++ more).splitOn sep := by
  induction text with
  | nil => simp
  | cons c rest ih =>
      obtain ⟨piece, pieces, hpieces⟩ :=
        List.exists_cons_of_ne_nil (List.splitOn_ne_nil sep rest)
      rw [List.cons_append, List.splitOn_cons_eq_if_modifyHead, List.splitOn_cons_eq_if_modifyHead,
        ih, hpieces]
      split_ifs with hsep
      · simp
      · cases pieces with
        | nil => simp [List.splitOn_cons_eq_if_modifyHead, hsep]
        | cons piece' pieces => simp

/-- The pieces do not hold what the text was split at. -/
theorem not_mem_of_mem_splitOn {sep : Char} {text piece : List Char}
    (h : piece ∈ text.splitOn sep) : sep ∉ piece := by
  induction text generalizing piece with
  | nil =>
      simp only [List.splitOn_nil, List.mem_singleton] at h
      simp [h]
  | cons c rest ih =>
      obtain ⟨first, pieces, hpieces⟩ :=
        List.exists_cons_of_ne_nil (List.splitOn_ne_nil sep rest)
      rw [List.splitOn_cons_eq_if_modifyHead] at h
      split_ifs at h with hsep
      · rcases List.mem_cons.mp h with rfl | hrest
        · simp
        · exact ih hrest
      · rw [hpieces] at h ih
        rcases List.mem_cons.mp h with rfl | hrest
        · rw [beq_iff_eq] at hsep
          rw [List.mem_cons, not_or]
          exact ⟨Ne.symm hsep, ih List.mem_cons_self⟩
        · exact ih (List.mem_cons_of_mem _ hrest)

theorem not_mem_getLastD_splitOn (sep : Char) (text : List Char) :
    sep ∉ (text.splitOn sep).getLastD [] := by
  have hne := List.splitOn_ne_nil sep text
  rw [List.getLastD_eq_getLast?, List.getLast?_eq_some_getLast hne]
  exact not_mem_of_mem_splitOn (List.getLast_mem hne)

/-- What holds no separator only makes the last piece longer. -/
theorem dropLast_splitOn_append {sep : Char} {more : List Char} (h : sep ∉ more)
    (text : List Char) :
    ((text ++ more).splitOn sep).dropLast = (text.splitOn sep).dropLast := by
  have hlast : sep ∉ (text.splitOn sep).getLastD [] ++ more := by
    rw [List.mem_append, not_or]
    exact ⟨not_mem_getLastD_splitOn sep text, h⟩
  rw [splitOn_append, List.splitOn_eq_singleton hlast, List.dropLast_concat]

end Text

namespace Session

open Run

/-! ## The lines of a text -/

/-- The lines of a text: its pieces between line breaks, but for an empty last one. -/
def linesOf (text : List Char) : List (List Char) :=
  let pieces := text.splitOn '\n'
  if pieces.getLastD [] = [] then pieces.dropLast else pieces

/-- A line break if a text ends with one. -/
def finalBreak (text : List Char) : List Char :=
  if text.getLast? = some '\n' then ['\n'] else []

/-- The pieces that are finished by a line break stay when a text grows. -/
theorem linesOf_append (text more : List Char) :
    linesOf (text ++ more) = (text.splitOn '\n').dropLast ++
      linesOf ((text.splitOn '\n').getLastD [] ++ more) := by
  have hlast : (((text.splitOn '\n').getLastD [] ++ more).splitOn '\n') ≠ [] :=
    List.splitOn_ne_nil _ _
  unfold linesOf
  rw [Text.splitOn_append]
  generalize ((text.splitOn '\n').getLastD [] ++ more).splitOn '\n' = pieces at hlast
  have hsame : ((text.splitOn '\n').dropLast ++ pieces).getLastD [] = pieces.getLastD [] := by
    simp [List.getLastD_eq_getLast?, List.getLast?_append, List.getLast?_eq_some_getLast hlast]
  dsimp only
  rw [hsame, List.dropLast_append_of_ne_nil hlast]
  split_ifs <;> rfl

/-- A text without line breaks is one line, unless it is empty. -/
theorem linesOf_of_not_mem {text : List Char} (h : '\n' ∉ text) :
    linesOf text = if text = [] then [] else [text] := by
  unfold linesOf
  rw [List.splitOn_eq_singleton h]
  rfl

theorem not_mem_of_mem_linesOf {text line : List Char} (h : line ∈ linesOf text) :
    '\n' ∉ line := by
  unfold linesOf at h
  dsimp only at h
  split_ifs at h
  · exact Text.not_mem_of_mem_splitOn (List.dropLast_subset _ h)
  · exact Text.not_mem_of_mem_splitOn h

/-- A last piece is joined to the others by a separator. -/
theorem intercalate_append_singleton (sep last : List Char) {pieces : List (List Char)}
    (h : pieces ≠ []) :
    sep.intercalate (pieces ++ [last]) = sep.intercalate pieces ++ sep ++ last := by
  induction pieces with
  | nil => exact absurd rfl h
  | cons first rest ih =>
      cases rest with
      | nil => simp [List.intercalate_cons_cons]
      | cons second rest =>
          have hrest := ih (List.cons_ne_nil second rest)
          simp only [List.cons_append, List.intercalate_cons_cons] at hrest ⊢
          rw [hrest]
          simp only [List.append_assoc]

/-- The lines and the last line break make up the text. -/
theorem intercalate_linesOf (text : List Char) :
    ['\n'].intercalate (linesOf text) ++ finalBreak text = text := by
  have hjoined : ['\n'].intercalate (text.splitOn '\n') = text :=
    List.intercalate_splitOn '\n'
  have hbreak := Text.not_mem_getLastD_splitOn '\n' text
  obtain ⟨pieces, last, hpieces⟩ : ∃ pieces last, text.splitOn '\n' = pieces ++ [last] :=
    ⟨_, _, (List.dropLast_concat_getLast (List.splitOn_ne_nil '\n' text)).symm⟩
  have hlines : linesOf text = if last = [] then pieces else pieces ++ [last] := by
    simp [linesOf, hpieces]
  rw [hpieces] at hjoined
  rw [hpieces, List.getLastD_concat] at hbreak
  rw [hlines]
  by_cases hlast : last = []
  · rw [if_pos hlast]
    subst hlast
    by_cases hnone : pieces = []
    · subst hnone
      have htext : text = [] := by simpa using hjoined.symm
      simp [htext, finalBreak]
    · rw [intercalate_append_singleton _ _ hnone, List.append_nil] at hjoined
      rw [← hjoined]
      simp [finalBreak]
  · -- the text ends as its last piece does, which holds no line break
    have hend : text.getLast? = last.getLast? := by
      rw [← hjoined]
      by_cases hnone : pieces = []
      · simp [hnone]
      · rw [intercalate_append_singleton _ _ hnone, List.getLast?_append,
          List.getLast?_eq_some_getLast hlast]
        rfl
    have hfinal : finalBreak text = [] := by
      rw [finalBreak, hend, if_neg]
      intro hnewline
      exact hbreak (List.mem_of_getLast? hnewline)
    rw [if_neg hlast, hfinal, List.append_nil, hjoined]

/-! ## Reading by pieces -/

theorem cutLines_eq (text : List Char) :
    cutLines text = ((text.splitOn '\n').dropLast.map String.ofList,
      (text.splitOn '\n').getLastD []) := by
  rw [cutLines, Text.splitOnChar_eq_splitOn]

/-- A piece of the log finishes lines and leaves the state in which the next one is read. -/
theorem linesFrom_cons (partialChar : Option Text.PartialChar) (pending : List Char)
    (bytes : List UInt8) (rest : List (Except Fault (List UInt8))) :
    let decoded := Text.decodePiece partialChar bytes
    let pieces := (pending ++ decoded.2).splitOn '\n'
    let later := linesFrom decoded.1 (pieces.getLastD []) rest
    linesFrom partialChar pending (.ok bytes :: rest) =
      (pieces.dropLast.map String.ofList ++ later.1, later.2) := by
  simp only [linesFrom, cutLines_eq]

/-- The lines of a log that ends are those of its text. -/
theorem linesFrom_ok {pending : List Char} (hpending : '\n' ∉ pending)
    (partialChar : Option Text.PartialChar) (chunks : List (List UInt8)) :
    linesFrom partialChar pending (chunks.map .ok) =
      ((linesOf (pending ++ Text.decodeFrom partialChar chunks.flatten)).map String.ofList,
        none) := by
  induction chunks generalizing partialChar pending with
  | nil =>
      have hlast : '\n' ∉ pending ++ Text.decodeEnd partialChar := by
        rw [List.mem_append, not_or]
        exact ⟨hpending, fun hend =>
          absurd (Text.eq_replacement_of_mem_decodeEnd hend) (by decide)⟩
      change (if (pending ++ Text.decodeEnd partialChar).isEmpty then []
        else [String.ofList (pending ++ Text.decodeEnd partialChar)], none) =
        ((linesOf (pending ++ Text.decodeEnd partialChar)).map String.ofList, none)
      rw [linesOf_of_not_mem hlast]
      simp only [List.isEmpty_iff]
      split_ifs <;> rfl
  | cons bytes rest ih =>
      rw [List.map_cons, linesFrom_cons, ih (Text.not_mem_getLastD_splitOn _ _), List.flatten_cons,
        Text.decodeFrom_append, ← List.append_assoc,
        linesOf_append (pending ++ (Text.decodePiece partialChar bytes).2), List.map_append]

/-- The lines of a log that breaks are those that were finished before. -/
theorem linesFrom_error {pending : List Char} (hpending : '\n' ∉ pending)
    (partialChar : Option Text.PartialChar) (chunks : List (List UInt8)) (fault : Fault)
    (later : List (Except Fault (List UInt8))) :
    linesFrom partialChar pending (chunks.map .ok ++ .error fault :: later) =
      (((pending ++ (Text.decodePiece partialChar chunks.flatten).2).splitOn
        '\n').dropLast.map String.ofList, some fault) := by
  induction chunks generalizing partialChar pending with
  | nil => simp [linesFrom, Text.decodePiece, List.splitOn_eq_singleton hpending]
  | cons bytes rest ih =>
      rw [List.map_cons, List.cons_append, linesFrom_cons, ih (Text.not_mem_getLastD_splitOn _ _),
        List.flatten_cons, Text.decodePiece_append, ← List.append_assoc,
        Text.splitOn_append _ (pending ++ (Text.decodePiece partialChar bytes).2),
        List.dropLast_append_of_ne_nil (List.splitOn_ne_nil _ _), List.map_append]

end Session

/-- The world in which containers have a log that arrives in these pieces. -/
def World.withLog (w : World) (log : List (Except Fault (List UInt8))) : World :=
  { w with cluster := { w.cluster with log := log } }

namespace Session

open Run

/-- Reading a log is one request and then the lines of its pieces. -/
theorem logLines_apply {pod : Pod} {metadata : Metadata} (hpod : pod.metadata = some metadata)
    (container : Option String) (follow : Bool) (tail : Yaml) {w : World}
    (hworking : w.cluster.broken .readLog w.cluster.requests = none) :
    (logLines pod container follow tail w).1 =
      .ok ((linesFrom none [] w.cluster.log).1,
        (linesFrom none [] w.cluster.log).2.map logHalt) := by
  let ns := (Yaml.ofText? metadata.ns).orElse w.cluster.ns
  have hread : Cluster.readLog metadata.name ns container follow tail w =
      (.ok w.cluster.log, w.requested (.readLog metadata.name ns container follow tail)) := by
    unfold Cluster.readLog
    rw [bind_of_ok (Cluster.request_of_working hworking)]
    rfl
  have hattempt : attempt (Cluster.readLog metadata.name ns container follow tail) w =
      (.ok (.ok w.cluster.log), w.requested (.readLog metadata.name ns container follow tail)) := by
    rw [attempt, hread]
  unfold logLines
  rw [hpod, bind_of_ok (need_some metadata w), bind_of_ok (get_apply w), bind_of_ok hattempt]
  rfl

/-- **The lines of a log do not depend on its cuts.** A log that ends yields the lines of the one
text that its bytes stand for, of which nothing is lost. A log that breaks yields the finished
lines of what its bytes stand for whatever comes next, and then one failure. -/
theorem logLines_law {pod : Pod} {metadata : Metadata} (hpod : pod.metadata = some metadata)
    (container : Option String) (follow : Bool) (tail : Yaml) {w : World}
    (hworking : w.cluster.broken .readLog w.cluster.requests = none) :
    let read := fun log => (logLines pod container follow tail (w.withLog log)).1
    (∀ chunks : List (List UInt8), ∃ text lines, Text.Decodes chunks.flatten text ∧
      read (chunks.map .ok) = .ok (lines, none) ∧ lines.map String.toList = linesOf text ∧
      (∀ line ∈ lines, '\n' ∉ line.toList) ∧
      ['\n'].intercalate (lines.map String.toList) ++ finalBreak text = text) ∧
    (∀ chunks chunks' : List (List UInt8), chunks.flatten = chunks'.flatten →
      read (chunks.map .ok) = read (chunks'.map .ok)) ∧
    ∀ (chunks : List (List UInt8)) detail later, ∃ sure,
      (∀ text, Text.Certain chunks.flatten text ↔ text <+: sure) ∧
      read (chunks.map .ok ++ .error (.http detail) :: later) =
        .ok ((sure.splitOn '\n').dropLast.map String.ofList,
          some (.failed (.logBroken detail))) := by
  intro read
  have hread : ∀ log, read log =
      .ok ((linesFrom none [] log).1, (linesFrom none [] log).2.map logHalt) :=
    fun log => logLines_apply hpod container follow tail (w := w.withLog log) hworking
  have hended : ∀ chunks : List (List UInt8), read (chunks.map .ok) =
      .ok ((linesOf (Text.decodeUtf8 chunks.flatten)).map String.ofList, none) := by
    intro chunks
    rw [hread, linesFrom_ok (by simp)]
    rfl
  refine ⟨fun chunks => ?_, fun chunks chunks' hsame => ?_, fun chunks detail later => ?_⟩
  · have hlines : ((linesOf (Text.decodeUtf8 chunks.flatten)).map String.ofList).map
        String.toList = linesOf (Text.decodeUtf8 chunks.flatten) := by
      simp [Function.comp_def]
    refine ⟨_, _, Text.decodes_decodeUtf8 _, hended chunks, hlines, ?_, ?_⟩
    · intro line hline
      obtain ⟨chars, hchars, rfl⟩ := List.mem_map.mp hline
      rw [String.toList_ofList]
      exact not_mem_of_mem_linesOf hchars
    · rw [hlines]
      exact intercalate_linesOf _
  · rw [hended, hended, hsame]
  · refine ⟨_, fun text => Text.certain_iff, ?_⟩
    -- what is withheld is part of no finished line
    have hwithheld : '\n' ∉ Text.withheld chunks.flatten := fun hmem =>
      absurd (Text.eq_replacement_of_mem_withheld hmem) (by decide)
    rw [hread, linesFrom_error (by simp), Text.dropLast_splitOn_append hwithheld]
    rfl

/-- A cut inside a character and one before a line break leave the same two lines. -/
theorem logLines_cut_inside_char :
    let metadata : Metadata := ⟨some "web-0", none, [], none, false⟩
    let pod : Pod := ⟨some metadata, none, none⟩
    let read := fun log => (logLines pod (some "app") false .null (World.empty.withLog log)).1
    read [.ok [0xC3], .ok [0xA9], .ok [], .ok [0x0A, 0x62]] = .ok (["é", "b"], none) ∧
      read [.ok [0xC3], .ok [0xA9], .ok [], .ok [0x0A, 0x62]] =
        read [.ok [0xC3, 0xA9, 0x0A], .ok [0x62]] := by
  intro metadata pod read
  have hpod : pod.metadata = some metadata := rfl
  have hlaw := logLines_law hpod (some "app") false .null (w := World.empty) rfl
  obtain ⟨text, lines, hdecodes, hread, hlines, -, -⟩ :=
    hlaw.1 [[0xC3], [0xA9], [], [0x0A, 0x62]]
  have htext : text = ['é', '\n', 'b'] :=
    (Text.decodes_iff.mp hdecodes).trans (by decide +kernel)
  have hshown : lines.map String.toList = ["é", "b"].map String.toList := by
    rw [hlines, htext]
    decide +kernel
  have hequal : lines = ["é", "b"] :=
    List.map_injective_iff.mpr (fun _ _ h => String.toList_inj.mp h) hshown
  refine ⟨?_, hlaw.2.1 [[0xC3], [0xA9], [], [0x0A, 0x62]] [[0xC3, 0xA9, 0x0A], [0x62]] rfl⟩
  rw [← hequal]
  exact hread

end Session

end PodReach
