import PodReach.Proofs.Program.Confinement
import PodReach.Proofs.Program.Endurance

/-!
# How a command ends

A command that fails in an expected way says so in one line and ends with an exit code, and nothing
that it did before reported an error. What counts as expected is decided in two places: an answer of
the API and a failure of the program's own are expected from any call, while a fault of the
connection is so only where a session or a log is opened. Any other fault of the connection, and a
client that cannot be built, leaves the command as it is, without a line. So does a line that cannot
be rendered, be it the report itself.
-/

namespace PodReach

open Run World

/-! ## Expected refusals -/

namespace World

variable {w₀ w w' : World}

/-- The number of errors that were reported between two worlds. -/
def reportsSince (w w' : World) : Nat :=
  (entriesSince w w').countP Entry.isReport

theorem reportsSince_append {entries : List Entry} (hgrown : w₀.Grew w)
    (h : w'.journal.toList = w.journal.toList ++ entries) :
    reportsSince w₀ w' = reportsSince w₀ w + entries.countP Entry.isReport := by
  rw [reportsSince, entriesSince_append hgrown h, List.countP_append]
  rfl

end World

namespace Program

open CommandLine Command

variable {s : Settings} {task : Task} {w w' : World} {command : Run Int} {halt : Halt}

/-- Whether a halt is reported as an error. -/
def reported : Halt → Bool
  | .failed _ => true
  | .fault (.api _ _) => true
  | _ => false

/-- What has to be known of a command before its end: it reported no error itself, and nobody but
who waited to interrupt it does. -/
structure Unreported (w w' : World) : Prop where
  grew : w.Grew w'
  none_reported : reportsSince w w' = 0
  alarm : SameAlarm w w'
  markup : w'.markup = w.markup

theorem Unreported.trans {w₁ : World} (h : Unreported w w₁) (h' : Unreported w₁ w') :
    Unreported w w' := by
  obtain ⟨later, hlater⟩ := h'.grew
  refine ⟨h.grew.trans h'.grew, ?_, h.alarm.trans h'.alarm, h'.markup.trans h.markup⟩
  have hnone := h'.none_reported
  rw [reportsSince, entriesSince_eq hlater.symm] at hnone
  rw [reportsSince_append h.grew hlater.symm, h.none_reported, hnone]

theorem guarded_of_ok {code : Int} (h : (command w).1 = .ok code) :
    guarded command w = command w := by
  rw [guarded_apply]
  rcases hrun : command w with ⟨halt | code', w'⟩
  · rw [hrun] at h
    cases h
  · rfl

end Program

end PodReach
