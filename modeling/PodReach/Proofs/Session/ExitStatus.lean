import PodReach.Proofs.Outcome
import PodReach.Proofs.Text.Integer
import PodReach.Session.ExitStatus

/-!
# What a status reports

A status that has the expected shape reports an exit code or a failure, and a text that is no JSON
is a failure, too. What has another shape is not reported at all: looking for a part where there is
none, or taking something for a number that is none, is a mistake that leaves the reading as it is.
The shapes are described here by what they hold, and the reading is shown to follow them.
-/

namespace PodReach

namespace Json

/-- A value that has fields. -/
def IsObject (j : Json) : Prop := ∃ fields, j = .object fields

/-- Only an object has anything but null under a name. -/
theorem isObject_of_part {j value : Json} {name : String} (h : j.part name = value)
    (hvalue : value ≠ .null) : j.IsObject := by
  cases j with
  | object fields => exact ⟨fields, rfl⟩
  | _ => exact absurd h.symm hvalue

theorem truthy_of_part {j value : Json} {name : String} (h : j.part name = value)
    (hvalue : value ≠ .null) : j.truthy = true := by
  obtain ⟨fields, rfl⟩ := isObject_of_part h hvalue
  cases fields with
  | nil => exact absurd h.symm hvalue
  | cons => rfl

end Json

namespace Session

open Outcome

variable {raw s name : String} {j value status details : Json} {causes : List Json} {n : Int}
  {failure : Failure} {halt : Halt}

/-! ## Shapes -/

/-- The whole number that a value stands for, a fraction being dropped. -/
inductive Denotes : Json → Int → Prop
  | integer (n : Int) : Denotes (.integer n) n
  | bool (b : Bool) : Denotes (.bool b) b.toNat
  | text {s : String} {n : Int} (h : Text.Numeral s.toList n) : Denotes (.text s) n
  | number {x : Double} {q : Rat} (h : x.value? = some q) : Denotes (.number x) (q.num.tdiv q.den)

/-- The exit code that a list of causes names: the first cause that is about it decides, and those
before it have to be objects. The code is one if the cause does not tell, or if there is none. -/
inductive Names : List Json → Int → Prop
  | nothing : Names [] 1
  | skipped {cause : Json} {rest : List Json} {n : Int} (h : cause.IsObject)
      (other : cause.part "reason" ≠ .text "ExitCode") (later : Names rest n) :
      Names (cause :: rest) n
  | untold {cause : Json} {rest : List Json} (h : cause.part "reason" = .text "ExitCode")
      (silent : cause.field? "message" = none) : Names (cause :: rest) 1
  | told {cause message : Json} {rest : List Json} {n : Int}
      (h : cause.part "reason" = .text "ExitCode") (given : cause.field? "message" = some message)
      (code : Denotes message n) : Names (cause :: rest) n

/-- The causes that details list. Whatever counts as false lists none. -/
inductive Lists : Json → List Json → Prop
  | nothing {details : Json} (h : details.truthy = false) : Lists details []
  | unlisted {details : Json} (h : details.IsObject)
      (causes : (details.part "causes").truthy = false) : Lists details []
  | listed {details : Json} {causes : List Json} (h : details.part "causes" = .list causes) :
      Lists details causes

/-- The exit code that a status reports. -/
inductive ReportsCode : Json → Int → Prop
  | success {status : Json} (h : status.part "status" = .text "Success") : ReportsCode status 0
  | failed {status : Json} {causes : List Json} {n : Int}
      (h : status.part "status" ≠ .text "Success")
      (reason : status.part "reason" = .text "NonZeroExitCode")
      (lists : Lists (status.part "details") causes) (names : Names causes n) :
      ReportsCode status n

/-- The failure that a status reports: its message, or else all of its text. -/
inductive ReportsFailure (raw : String) : Json → Failure → Prop
  | stated {status : Json} (h : status.IsObject)
      (unsuccessful : status.part "status" ≠ .text "Success")
      (reason : status.part "reason" ≠ .text "NonZeroExitCode")
      (message : (status.part "message").truthy = true) :
      ReportsFailure raw status (.remoteFailure (status.part "message").shown)
  | unstated {status : Json} (h : status.IsObject)
      (unsuccessful : status.part "status" ≠ .text "Success")
      (reason : status.part "reason" ≠ .text "NonZeroExitCode")
      (message : (status.part "message").truthy = false) :
      ReportsFailure raw status (.remoteFailure raw)

/-- A status without the shape that is expected: it reports neither a code nor a failure. -/
def Malformed (raw : String) (status : Json) : Prop :=
  (∀ n, ¬ ReportsCode status n) ∧ ∀ failure, ¬ ReportsFailure raw status failure

/-! ## Reading -/

theorem fieldOf_eq_ok_iff : fieldOf name j = .ok value ↔ j.IsObject ∧ value = j.part name := by
  cases j with
  | object fields => simp [fieldOf, Json.IsObject, Json.part, Json.field?, eq_comm]
  | _ => simp [fieldOf, Json.IsObject]

theorem isText_iff : isText s j = true ↔ j = .text s := by
  cases j <;> simp [isText]

theorem codeOf_eq_ok_iff : codeOf j = .ok n ↔ Denotes j n := by
  constructor
  · intro h
    unfold codeOf at h
    split at h
    · cases h
      exact .integer n
    · rename_i b
      cases h
      cases b <;> exact .bool _
    · split at h
      · rename_i hread
        cases h
        exact .text (Text.readInteger?_eq_some_iff.mp hread)
      · cases h
    · split at h
      · rename_i hread
        cases h
        obtain ⟨q, hq, rfl⟩ := Option.map_eq_some_iff.mp hread
        exact .number hq
      · cases h
    · cases h
  · intro h
    cases h with
    | integer => rfl
    | bool b => cases b <;> rfl
    | text h => simp [codeOf, Text.readInteger?_eq_some_iff.mpr h]
    | number h => simp [codeOf, Double.truncate, h]

theorem isText_eq_false_iff : isText s j = false ↔ j ≠ .text s := by
  rw [← Bool.not_eq_true, isText_iff]

/-- The exit code found in a list of causes is the one that it names. -/
theorem codeOfCauses_eq_ok_iff : codeOfCauses causes = .ok n ↔ Names causes n := by
  induction causes with
  | nil =>
      constructor
      · intro h
        cases h
        exact .nothing
      · intro h
        cases h
        rfl
  | cons cause rest ih =>
      rw [codeOfCauses, bind_eq_ok_iff]
      constructor
      · rintro ⟨reason, hreason, h⟩
        obtain ⟨hobject, rfl⟩ := fieldOf_eq_ok_iff.mp hreason
        split at h
        · rename_i htext
          have hcode := isText_iff.mp htext
          split at h
          · rename_i message hgiven
            exact .told hcode hgiven (codeOf_eq_ok_iff.mp h)
          · rename_i hsilent
            cases h
            exact .untold hcode hsilent
        · rename_i htext
          exact .skipped hobject (fun hcode => htext (isText_iff.mpr hcode)) (ih.mp h)
      · intro h
        refine ⟨cause.part "reason", ?_⟩
        cases h with
        | skipped hobject other later =>
            refine ⟨fieldOf_eq_ok_iff.mpr ⟨hobject, rfl⟩, ?_⟩
            simp only [isText_eq_false_iff.mpr other, Bool.false_eq_true, if_false]
            exact ih.mpr later
        | untold h silent =>
            refine ⟨fieldOf_eq_ok_iff.mpr ⟨Json.isObject_of_part h nofun, rfl⟩, ?_⟩
            simp only [isText_iff.mpr h, if_true, silent]
        | told h given code =>
            refine ⟨fieldOf_eq_ok_iff.mpr ⟨Json.isObject_of_part h nofun, rfl⟩, ?_⟩
            simp only [isText_iff.mpr h, if_true, given]
            exact codeOf_eq_ok_iff.mpr code

/-- The causes found in details are those that they list. -/
theorem causesOf_eq_ok_iff : causesOf details = .ok causes ↔ Lists details causes := by
  rw [causesOf]
  constructor
  · intro h
    split at h
    · rename_i hempty
      cases h
      exact .nothing (by simpa using hempty)
    · obtain ⟨listed, hlisted, h⟩ := bind_eq_ok_iff.mp h
      obtain ⟨hobject, rfl⟩ := fieldOf_eq_ok_iff.mp hlisted
      split at h
      · rename_i hempty
        cases h
        exact .unlisted hobject (by simpa using hempty)
      · split at h
        · rename_i items hitems
          cases h
          exact .listed hitems
        · cases h
        · cases h
        · cases h
  · intro h
    cases h with
    | nothing h => simp [h]
    | unlisted h causes =>
        split
        · rfl
        · exact bind_eq_ok_iff.mpr ⟨_, fieldOf_eq_ok_iff.mpr ⟨h, rfl⟩, by simp [causes]⟩
    | listed h =>
        have hfield := fieldOf_eq_ok_iff.mpr ⟨Json.isObject_of_part h nofun, h.symm⟩
        simp only [Json.truthy_of_part h nofun, Bool.not_true, Bool.false_eq_true, if_false]
        refine bind_eq_ok_iff.mpr ⟨_, hfield, ?_⟩
        cases causes <;> rfl

/-- The exit code found in a status is the one that it reports. -/
theorem exitCodeOf_eq_ok_iff : exitCodeOf raw status = .ok n ↔ ReportsCode status n := by
  rw [exitCodeOf, bind_eq_ok_iff]
  constructor
  · rintro ⟨outcome, houtcome, h⟩
    obtain ⟨hobject, rfl⟩ := fieldOf_eq_ok_iff.mp houtcome
    split at h
    · rename_i hsuccess
      cases h
      exact .success (isText_iff.mp hsuccess)
    · rename_i hsuccess
      obtain ⟨reason, hreason, h⟩ := bind_eq_ok_iff.mp h
      obtain ⟨-, rfl⟩ := fieldOf_eq_ok_iff.mp hreason
      split at h
      · rename_i hnonzero
        obtain ⟨details, hdetails, h⟩ := bind_eq_ok_iff.mp h
        obtain ⟨-, rfl⟩ := fieldOf_eq_ok_iff.mp hdetails
        obtain ⟨causes, hcauses, h⟩ := bind_eq_ok_iff.mp h
        exact .failed (fun hok => hsuccess (isText_iff.mpr hok)) (isText_iff.mp hnonzero)
          (causesOf_eq_ok_iff.mp hcauses) (codeOfCauses_eq_ok_iff.mp h)
      · obtain ⟨message, -, h⟩ := bind_eq_ok_iff.mp h
        cases h
  · intro h
    cases h with
    | success h =>
        refine ⟨_, fieldOf_eq_ok_iff.mpr ⟨Json.isObject_of_part h nofun, rfl⟩, ?_⟩
        simp [isText_iff.mpr h]
    | failed h reason lists names =>
        have hobject := Json.isObject_of_part reason nofun
        have hfield (name : String) : fieldOf name status = .ok (status.part name) :=
          fieldOf_eq_ok_iff.mpr ⟨hobject, rfl⟩
        refine ⟨_, hfield _, ?_⟩
        simp only [isText_eq_false_iff.mpr h, Bool.false_eq_true, if_false]
        refine bind_eq_ok_iff.mpr ⟨_, hfield _, ?_⟩
        simp only [isText_iff.mpr reason, if_true]
        refine bind_eq_ok_iff.mpr ⟨_, hfield _, ?_⟩
        exact bind_eq_ok_iff.mpr
          ⟨_, causesOf_eq_ok_iff.mpr lists, codeOfCauses_eq_ok_iff.mpr names⟩

/-! ## What goes wrong -/

theorem fieldOf_mistake (h : fieldOf name j = .error halt) :
    ∃ mistake, halt = .mistake mistake := by
  cases j <;> cases h <;> exact ⟨_, rfl⟩

theorem codeOf_mistake (h : codeOf j = .error halt) : ∃ mistake, halt = .mistake mistake := by
  unfold codeOf at h
  split at h
  · cases h
  · cases h
  · split at h
    · cases h
    · cases h
      exact ⟨_, rfl⟩
  · split at h
    · cases h
    · cases h
      exact ⟨_, rfl⟩
  · cases h
    exact ⟨_, rfl⟩

theorem codeOfCauses_mistake (h : codeOfCauses causes = .error halt) :
    ∃ mistake, halt = .mistake mistake := by
  induction causes with
  | nil => cases h
  | cons cause rest ih =>
      rw [codeOfCauses, bind_eq_error_iff] at h
      rcases h with h | ⟨reason, -, h⟩
      · exact fieldOf_mistake h
      · split at h
        · split at h
          · exact codeOf_mistake h
          · cases h
        · exact ih h

theorem causesOf_mistake (h : causesOf details = .error halt) :
    ∃ mistake, halt = .mistake mistake := by
  rw [causesOf] at h
  split at h
  · cases h
  · rcases bind_eq_error_iff.mp h with h | ⟨listed, -, h⟩
    · exact fieldOf_mistake h
    · split at h
      · cases h
      · split at h
        · cases h
        all_goals
          cases h
          exact ⟨_, rfl⟩

/-- What is wrong with a status is the failure that it reports, or a mistake about its shape. -/
theorem failure_or_mistake (h : exitCodeOf raw status = .error halt) :
    (∃ failure, halt = .failed failure ∧ ReportsFailure raw status failure) ∨
      ∃ mistake, halt = .mistake mistake := by
  rw [exitCodeOf, bind_eq_error_iff] at h
  rcases h with h | ⟨outcome, houtcome, h⟩
  · exact Or.inr (fieldOf_mistake h)
  obtain ⟨hobject, rfl⟩ := fieldOf_eq_ok_iff.mp houtcome
  split at h
  · cases h
  rename_i hsuccess
  have hunsuccessful : status.part "status" ≠ .text "Success" :=
    fun hok => hsuccess (isText_iff.mpr hok)
  rcases bind_eq_error_iff.mp h with h | ⟨reason, hreason, h⟩
  · exact Or.inr (fieldOf_mistake h)
  obtain ⟨-, rfl⟩ := fieldOf_eq_ok_iff.mp hreason
  split at h
  · rcases bind_eq_error_iff.mp h with h | ⟨details, -, h⟩
    · exact Or.inr (fieldOf_mistake h)
    rcases bind_eq_error_iff.mp h with h | ⟨causes, -, h⟩
    · exact Or.inr (causesOf_mistake h)
    · exact Or.inr (codeOfCauses_mistake h)
  · rename_i hother
    have hreason : status.part "reason" ≠ .text "NonZeroExitCode" :=
      fun hcode => hother (isText_iff.mpr hcode)
    rcases bind_eq_error_iff.mp h with h | ⟨message, hmessage, h⟩
    · exact Or.inr (fieldOf_mistake h)
    obtain ⟨-, rfl⟩ := fieldOf_eq_ok_iff.mp hmessage
    cases h
    refine Or.inl ⟨_, rfl, ?_⟩
    cases htold : (status.part "message").truthy with
    | true => exact .stated hobject hunsuccessful hreason htold
    | false => exact .unstated hobject hunsuccessful hreason htold

theorem exitCodeOf_of_reportsFailure (h : ReportsFailure raw status failure) :
    exitCodeOf raw status = .error (.failed failure) := by
  cases h with
  | stated h unsuccessful reason told | unstated h unsuccessful reason told =>
      obtain ⟨fields, rfl⟩ := h
      have hfield (name : String) :
          fieldOf name (.object fields) = .ok ((Json.object fields).part name) := rfl
      simp only [exitCodeOf, hfield, bind, Except.bind, isText_eq_false_iff.mpr unsuccessful,
        isText_eq_false_iff.mpr reason, Bool.false_eq_true, if_false, told, if_true]

theorem exitCodeOf_failed_iff :
    exitCodeOf raw status = .error (.failed failure) ↔ ReportsFailure raw status failure := by
  refine ⟨fun h => ?_, exitCodeOf_of_reportsFailure⟩
  rcases failure_or_mistake h with ⟨other, hother, hreports⟩ | ⟨mistake, hmistake⟩
  · cases hother
    exact hreports
  · cases hmistake

/-- A status is a mistake exactly when it has not the shape of any report. -/
theorem exitCodeOf_mistake_iff :
    (∃ mistake, exitCodeOf raw status = .error (.mistake mistake)) ↔ Malformed raw status := by
  constructor
  · rintro ⟨mistake, h⟩
    refine ⟨fun n hcode => ?_, fun failure hfailure => ?_⟩
    · cases h.symm.trans (exitCodeOf_eq_ok_iff.mpr hcode)
    · cases h.symm.trans (exitCodeOf_of_reportsFailure hfailure)
  · rintro ⟨hcode, hfailure⟩
    cases h : exitCodeOf raw status with
    | ok n => exact absurd (exitCodeOf_eq_ok_iff.mp h) (hcode n)
    | error halt =>
        rcases failure_or_mistake h with ⟨failure, -, hreports⟩ | ⟨mistake, rfl⟩
        · exact absurd hreports (hfailure failure)
        · exact ⟨mistake, rfl⟩

/-! ## The text of the channel -/

/-- The failure of a session whose error channel holds a text: the text is no JSON, or it is a
status that reports the failure. -/
def Fails (raw : String) (failure : Failure) : Prop :=
  raw ≠ "" ∧ Json.read? raw = none ∧ failure = .statusUnreadable raw ∨
    ∃ status, Json.read? raw = some status ∧ ReportsFailure raw status failure

theorem ne_empty_of_read? (h : Json.read? raw = some status) : raw ≠ "" := by
  rintro rfl
  have hnone : Json.read? "" = none := by decide
  cases hnone.symm.trans h

theorem exitCode_of_unread (h : raw ≠ "") (hread : Json.read? raw = none) :
    exitCode raw = .error (.failed (.statusUnreadable raw)) := by
  simp [exitCode, h, hread]

theorem exitCode_of_read (h : Json.read? raw = some status) :
    exitCode raw = (exitCodeOf raw status).map some := by
  simp [exitCode, ne_empty_of_read? h, h]

/-- A channel is empty, holds no JSON, or holds a status. -/
theorem empty_or_unread_or_read (raw : String) :
    raw = "" ∨ (raw ≠ "" ∧ Json.read? raw = none) ∨ ∃ status, Json.read? raw = some status := by
  by_cases hraw : raw = ""
  · exact Or.inl hraw
  · cases hread : Json.read? raw with
    | none => exact Or.inr (Or.inl ⟨hraw, rfl⟩)
    | some status => exact Or.inr (Or.inr ⟨status, rfl⟩)

theorem exitCode_eq_none_iff : exitCode raw = .ok none ↔ raw = "" := by
  constructor
  · intro h
    rcases empty_or_unread_or_read raw with hraw | ⟨hraw, hread⟩ | ⟨status, hread⟩
    · exact hraw
    · rw [exitCode_of_unread hraw hread] at h
      cases h
    · rw [exitCode_of_read hread] at h
      cases hcode : exitCodeOf raw status <;> rw [hcode] at h <;> cases h
  · rintro rfl
    rfl

theorem exitCode_eq_some_iff :
    exitCode raw = .ok (some n) ↔
      ∃ status, Json.read? raw = some status ∧ ReportsCode status n := by
  constructor
  · intro h
    rcases empty_or_unread_or_read raw with rfl | ⟨hraw, hread⟩ | ⟨status, hread⟩
    · cases h
    · rw [exitCode_of_unread hraw hread] at h
      cases h
    · rw [exitCode_of_read hread] at h
      cases hcode : exitCodeOf raw status <;> rw [hcode] at h <;> cases h
      exact ⟨status, hread, exitCodeOf_eq_ok_iff.mp hcode⟩
  · rintro ⟨status, hread, hreports⟩
    rw [exitCode_of_read hread, exitCodeOf_eq_ok_iff.mpr hreports]
    rfl

/-- An error is that of a text that is no JSON, or that of the status. -/
theorem exitCode_eq_error_iff :
    exitCode raw = .error halt ↔
      (raw ≠ "" ∧ Json.read? raw = none ∧ halt = .failed (.statusUnreadable raw)) ∨
        ∃ status, Json.read? raw = some status ∧ exitCodeOf raw status = .error halt := by
  constructor
  · intro h
    rcases empty_or_unread_or_read raw with rfl | ⟨hraw, hread⟩ | ⟨status, hread⟩
    · cases h
    · rw [exitCode_of_unread hraw hread] at h
      cases h
      exact Or.inl ⟨hraw, hread, rfl⟩
    · refine Or.inr ⟨status, hread, ?_⟩
      rw [exitCode_of_read hread] at h
      cases hcode : exitCodeOf raw status <;> rw [hcode] at h <;> cases h
      rfl
  · rintro (⟨hraw, hread, rfl⟩ | ⟨status, hread, h⟩)
    · exact exitCode_of_unread hraw hread
    · rw [exitCode_of_read hread, h]
      rfl

theorem exitCode_failed_iff : exitCode raw = .error (.failed failure) ↔ Fails raw failure := by
  simp only [exitCode_eq_error_iff, exitCodeOf_failed_iff, Halt.failed.injEq, Fails]

/-- A failure that is reported is one of the session. -/
theorem Fails.kind_eq (h : Fails raw failure) : failure.kind = .transport := by
  rcases h with ⟨-, -, rfl⟩ | ⟨status, -, hstated | hunstated⟩ <;> rfl

theorem exitCode_mistake_iff :
    (∃ mistake, exitCode raw = .error (.mistake mistake)) ↔
      ∃ status, Json.read? raw = some status ∧ Malformed raw status := by
  simp only [exitCode_eq_error_iff, ← exitCodeOf_mistake_iff]
  constructor
  · rintro ⟨mistake, ⟨-, -, h⟩ | ⟨status, hread, h⟩⟩
    · cases h
    · exact ⟨status, hread, mistake, h⟩
  · rintro ⟨status, hread, mistake, h⟩
    exact ⟨mistake, Or.inr ⟨status, hread, h⟩⟩

/-- There is no third way to go wrong. -/
theorem exitCode_failed_or_mistake (h : exitCode raw = .error halt) :
    (∃ failure, halt = .failed failure) ∨ ∃ mistake, halt = .mistake mistake := by
  rcases exitCode_eq_error_iff.mp h with ⟨-, -, rfl⟩ | ⟨status, -, h⟩
  · exact Or.inl ⟨_, rfl⟩
  · exact (failure_or_mistake h).imp_left fun ⟨failure, hfailure, _⟩ => ⟨failure, hfailure⟩

/-- What is known when a session has ended. An empty channel tells nothing, and a status is read
for the code or the failure that it reports; a text that is no JSON is a failure, too. There is one
more way to end, and only for a status that reports neither: a mistake, which is no failure of the
session. -/
theorem exitCode_law (raw : String) :
    (exitCode raw = .ok none ↔ raw = "") ∧
      (∀ n, exitCode raw = .ok (some n) ↔
        ∃ status, Json.read? raw = some status ∧ ReportsCode status n) ∧
      (∀ failure, exitCode raw = .error (.failed failure) ↔ Fails raw failure) ∧
      (∀ failure, Fails raw failure → failure.kind = .transport) ∧
      ((∃ mistake, exitCode raw = .error (.mistake mistake)) ↔
        ∃ status, Json.read? raw = some status ∧ Malformed raw status) ∧
      ∀ halt, exitCode raw = .error halt →
        (∃ failure, halt = .failed failure) ∨ ∃ mistake, halt = .mistake mistake := by
  exact ⟨exitCode_eq_none_iff, fun n => exitCode_eq_some_iff, fun failure => exitCode_failed_iff,
    fun failure => Fails.kind_eq, exitCode_mistake_iff, fun halt => exitCode_failed_or_mistake⟩

/-- The text of a failure that lists causes. -/
def failureText (causes : String) : String :=
  "\x7b\"reason\": \"NonZeroExitCode\", \"details\": \x7b\"causes\": " ++ causes ++ "\x7d\x7d"

/-- The text of a list of one cause, which tells the exit code. -/
def causeText (code : String) : String :=
  "[\x7b\"reason\": \"ExitCode\", \"message\": " ++ code ++ "\x7d]"

/-- Statuses that are mistakes of each kind: a list instead of an object, a number instead of a list
of causes, and exit codes in hexadecimal and beyond all bounds. -/
theorem exitCode_misshapen :
    exitCode "[]" = .error (.mistake .noSuchPart) ∧
      exitCode (failureText "5") = .error (.mistake .wrongKind) ∧
      exitCode (failureText (causeText "\"0x1\"")) = .error (.mistake .badValue) ∧
      exitCode (failureText (causeText "Infinity")) = .error (.mistake .overflow) := by
  decide +kernel

end Session

end PodReach
