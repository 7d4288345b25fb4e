import PodReach.Text.Blank
import PodReach.Text.Surrogate
import PodReach.World.Effects
import PodReach.World.Path

/-!
# Log files

What goes on in sessions and on forwarded ports is logged to files, one for each name, in a
directory that the settings give. A log keeps the directory in which it was first opened, and its
lines do not appear on the console.
-/

namespace PodReach

namespace LogFile

/-- The directory that a setting leads to, if it changes the usual one. -/
def chosenDirectory? (home : String) (setting : Option String) : Option String :=
  ((Text.nonempty setting).map (Path.expandTilde home)).filter (· != World.usualLogDirectory)

/-- The place of the log of a name in a directory. Single and double dots in it are settled before
it is opened. -/
def placeOf (directory name : String) : List String :=
  let file := name ++ ".log"
  Path.parts (if file.startsWith "/" then file else Path.inside directory file)

/-- Whether a directory is there when a log is opened: the directory of logs, what it lies in, and
those that every machine has. -/
def isThere (directory : String) (place : List String) : Bool :=
  place.isPrefixOf (Path.parts directory)
    || (place.length == 1 && place.any World.standingDirectories.contains)

/-- Whether something can be asked of the system about a text: it has an encoding without a null
byte. -/
def isAskable (text : String) : Bool :=
  !text.toList.contains '\x00' && Text.isEncodable text

/-- Open the log of a name in a directory, unless the system refuses that; one that is open stays
where it is. A name may lead to another directory, but none is made for it. The directory has to be
a text, as the name is. -/
def openIn (refused : Option String) (directory : Yaml) (name : String) (logs : OpenLogs) :
    Except Halt (String × OpenLogs) :=
  match logs.lookup name, refused, directory with
  | some known, _, _ => .ok (known, logs)
  | none, some detail, _ => .error (.fault (.os detail))
  | none, none, .text directory =>
    let place := placeOf directory name
    if !isAskable directory || !isAskable name then .error (.mistake .badValue)
    else if isThere directory place.dropLast && place.all Path.isPossibleName then
      .ok (directory, (name, directory) :: logs)
    else .error (.fault (.os "No such file or directory"))
  | none, none, _ => .error (.mistake .wrongKind)

/-- One entry of a log file. -/
def entry (time level text : String) : String :=
  s!"{time} {level} {text}\n"

/-- The text of a log file with entries of level and text. A text that has no encoding is left
out. -/
def content (time : String) (entries : List (String × String)) : String :=
  String.join ((entries.filter fun (_, text) => Text.isEncodable text).map
    fun (level, text) => entry time level text)

/-- Whether the entries of a log also appear on the console. -/
def onConsole : Bool := false

/-- A log that was opened is open. -/
theorem lookup_of_openIn {refused : Option String} {directory : Yaml} {name : String}
    {logs : OpenLogs} {found : String × OpenLogs}
    (h : openIn refused directory name logs = .ok found) :
    found.2.lookup name = some found.1 := by
  unfold openIn at h
  cases hknown : logs.lookup name with
  | some known =>
      rw [hknown] at h
      cases h
      exact hknown
  | none =>
      rw [hknown] at h
      cases refused with
      | some detail => cases h
      | none =>
          cases directory with
          | text path =>
              dsimp only at h
              split at h
              · cases h
              · split at h
                · cases h
                  exact List.lookup_cons_self
                · cases h
          | _ => cases h

/-- A log that is open is found again, whatever the directory and whatever is refused now. -/
theorem openIn_again {refused refused' : Option String} {directory directory' : Yaml}
    {name : String} {logs : OpenLogs} {found : String × OpenLogs}
    (h : openIn refused directory name logs = .ok found) :
    openIn refused' directory' name found.2 = .ok found := by
  unfold openIn
  rw [lookup_of_openIn h]

/-- Where the system can be asked about, only the system refuses to open a log. -/
theorem fault_of_openIn {refused : Option String} {directory name : String} {logs : OpenLogs}
    {halt : Halt} (h : openIn refused (.text directory) name logs = .error halt)
    (hdirectory : isAskable directory = true) (hname : isAskable name = true) :
    ∃ detail, halt = .fault (.os detail) := by
  unfold openIn at h
  cases hknown : logs.lookup name with
  | some known =>
      rw [hknown] at h
      cases h
  | none =>
      rw [hknown] at h
      cases refused with
      | some detail =>
          cases h
          exact ⟨detail, rfl⟩
      | none =>
          simp only [hdirectory, hname, Bool.not_true, Bool.or_self, Bool.false_eq_true,
            if_false] at h
          split at h
          · cases h
          · cases h
            exact ⟨_, rfl⟩

end LogFile

namespace Log

open Run

/-- Open the log file of a name in the directory that is set. -/
def openFile (name : String) : Run Unit := do
  let w ← get
  let refused := w.logFault w.logDirectory name
  let (_, logs) ← MonadExcept.ofExcept (LogFile.openIn refused w.logDirectory name w.logs)
  modify fun w => { w with logs := logs }

end Log

end PodReach
