import PodReach.Forward.Port
import PodReach.Proofs.Outcome
import PodReach.Proofs.Text.Integer

/-!
# Descriptions of ports

A description without its surrounding blanks is one number for both ends, or two numbers around its
first colon, of which the first may be missing. Every number is a numeral up to 65535, and the
remote one is not zero. A list of descriptions is read if and only if each of them has this form,
each by itself; otherwise the failure is that of the first one that has not, and it names the
description.
-/

namespace PodReach.Forward

open Outcome Text

/-! ## One description -/

/-- The largest port number. -/
def maxPort : Nat := 65535

/-- A text that stands for a port number. -/
def PortNumber (text : List Char) (n : Nat) : Prop :=
  Numeral text n ∧ n ≤ maxPort

/-- What stands before a colon: nothing, for any free port, or a port number. -/
def LocalNumber (text : List Char) (n : Nat) : Prop :=
  text = [] ∧ n = 0 ∨ PortNumber text n

/-- A description without blanks around it, and the port that it stands for. -/
inductive Describes : List Char → Port → Prop
  | lone {text : List Char} {n : Nat} (uncut : ':' ∉ text) (number : PortNumber text n)
      (remote : n ≠ 0) : Describes text ⟨n, n⟩
  | pair {before after : List Char} {m n : Nat} (first : ':' ∉ before)
      (localNumber : LocalNumber before m) (number : PortNumber after n) (remote : n ≠ 0) :
      Describes (before ++ ':' :: after) ⟨m, n⟩

/-- Why a text does not stand for a port number, as the failure of the description around it. -/
inductive NoPortNumber (text : List Char) : (String → Failure) → Prop
  | unreadable (h : ∀ value, ¬ Numeral text value) : NoPortNumber text .invalidPort
  | outside {value : Int} (h : Numeral text value) (range : ¬ (0 ≤ value ∧ value ≤ maxPort)) :
      NoPortNumber text .portOutOfRange

/-- Why a text does not describe a port. Of two numbers the local one is looked at first, and only a
number that is none too large is asked whether it is zero. -/
inductive DescribesNone : List Char → (String → Failure) → Prop
  | lone {text : List Char} {why : String → Failure} (uncut : ':' ∉ text)
      (h : NoPortNumber text why) : DescribesNone text why
  | loneZero {text : List Char} (uncut : ':' ∉ text) (number : PortNumber text 0) :
      DescribesNone text .remotePortZero
  | locally {before after : List Char} {why : String → Failure} (first : ':' ∉ before)
      (given : before ≠ []) (h : NoPortNumber before why) :
      DescribesNone (before ++ ':' :: after) why
  | remotely {before after : List Char} {m : Nat} {why : String → Failure} (first : ':' ∉ before)
      (localNumber : LocalNumber before m) (h : NoPortNumber after why) :
      DescribesNone (before ++ ':' :: after) why
  | remoteZero {before after : List Char} {m : Nat} (first : ':' ∉ before)
      (localNumber : LocalNumber before m) (number : PortNumber after 0) :
      DescribesNone (before ++ ':' :: after) .remotePortZero

variable {text before after : List Char} {written described : String} {n m : Nat} {port : Port}
  {failure : Failure}

theorem readNumber_eq_ok_iff : readNumber text written = .ok n ↔ PortNumber text n := by
  have hnumeral : ∀ value, readInteger? (String.ofList text) = some value ↔ Numeral text value :=
    fun value => by rw [readInteger?_eq_some_iff, String.toList_ofList]
  unfold readNumber
  constructor
  · intro h
    split at h
    · cases h
    · rename_i value hvalue
      split at h
      · rename_i hrange
        cases h
        refine ⟨?_, Int.toNat_le.mpr hrange.2⟩
        rw [Int.toNat_of_nonneg hrange.1]
        exact (hnumeral value).mp hvalue
      · cases h
  · rintro ⟨h, hrange⟩
    rw [(hnumeral n).mpr h]
    have hin : (0 : Int) ≤ n ∧ (n : Int) ≤ 65535 := ⟨Int.natCast_nonneg n, by exact_mod_cast hrange⟩
    simp only [if_pos hin, Int.toNat_natCast]

theorem readNumber_eq_error_iff : readNumber text written = .error failure ↔
    ∃ why, NoPortNumber text why ∧ failure = why written := by
  have hnumeral : ∀ value, readInteger? (String.ofList text) = some value ↔ Numeral text value :=
    fun value => by rw [readInteger?_eq_some_iff, String.toList_ofList]
  unfold readNumber
  constructor
  · intro h
    split at h
    · rename_i hnone
      cases h
      refine ⟨_, .unreadable fun value hvalue => ?_, rfl⟩
      rw [(hnumeral value).mpr hvalue] at hnone
      cases hnone
    · rename_i value hvalue
      split at h
      · cases h
      · rename_i hrange
        cases h
        exact ⟨_, .outside ((hnumeral value).mp hvalue) hrange, rfl⟩
  · rintro ⟨why, hwhy, rfl⟩
    cases hwhy with
    | unreadable h =>
        have hnone : readInteger? (String.ofList text) = none :=
          Option.eq_none_iff_forall_not_mem.mpr fun value hvalue =>
            h value ((hnumeral value).mp hvalue)
        rw [hnone]
    | outside h hrange =>
        rw [(hnumeral _).mpr h]
        exact if_neg hrange

/-- Read what stands before a colon. -/
def readLocal (text : List Char) (written : String) : Except Failure Nat :=
  if text.isEmpty then .ok 0 else readNumber text written

theorem readLocal_eq_ok_iff : readLocal text written = .ok n ↔ LocalNumber text n := by
  unfold readLocal
  cases text with
  | nil =>
      have hnone : ¬ PortNumber [] n := fun h => h.1.ne_nil rfl
      simp [LocalNumber, hnone, eq_comm]
  | cons c rest => simp [LocalNumber, readNumber_eq_ok_iff]

theorem readLocal_eq_error_iff : readLocal text written = .error failure ↔
    text ≠ [] ∧ ∃ why, NoPortNumber text why ∧ failure = why written := by
  unfold readLocal
  cases text with
  | nil => simp
  | cons c rest => simp [readNumber_eq_error_iff]

/-- The port with two numbers, unless the remote one is zero. -/
def portOf (written : String) (m n : Nat) : Except Failure Port :=
  if n = 0 then .error (.remotePortZero written) else .ok ⟨m, n⟩

theorem read_of_uncut (h : ':' ∉ (strip described).toList) : Port.read described =
    readNumber (strip described).toList (strip described) >>= fun n =>
      portOf (strip described) n n := by
  unfold Port.read
  dsimp only
  rw [cutAtFirst_eq_none_iff.mpr h]
  cases readNumber (strip described).toList (strip described) <;> rfl

theorem read_of_cut (h : (strip described).toList = before ++ ':' :: after)
    (hfirst : ':' ∉ before) : Port.read described =
    readLocal before (strip described) >>= fun m =>
      readNumber after (strip described) >>= fun n => portOf (strip described) m n := by
  unfold Port.read readLocal
  dsimp only
  rw [cutAtFirst_eq_some_iff.mpr ⟨h, hfirst⟩]
  dsimp only
  split
  · cases readNumber after (strip described) <;> rfl
  · cases readNumber before (strip described) with
    | error failure => rfl
    | ok m => cases readNumber after (strip described) <;> rfl

/-- A text has no colon, or it is cut at its first one. -/
theorem uncut_or_cut (text : List Char) :
    ':' ∉ text ∨ ∃ before after, text = before ++ ':' :: after ∧ ':' ∉ before := by
  cases hcut : cutAtFirst ':' text with
  | none => exact Or.inl (cutAtFirst_eq_none_iff.mp hcut)
  | some parts => exact Or.inr ⟨parts.1, parts.2, cutAtFirst_eq_some_iff.mp hcut⟩

theorem portOf_eq_ok_iff : portOf written m n = .ok port ↔ n ≠ 0 ∧ port = ⟨m, n⟩ := by
  unfold portOf
  split
  · simp [*]
  · simp [*, eq_comm]

theorem portOf_eq_error_iff :
    portOf written m n = .error failure ↔ n = 0 ∧ failure = .remotePortZero written := by
  unfold portOf
  split <;> simp [*, eq_comm]

/-- A description is read if and only if it describes a port. -/
theorem read_eq_ok_iff :
    Port.read described = .ok port ↔ Describes (strip described).toList port := by
  rcases uncut_or_cut (strip described).toList with huncut | ⟨before, after, hcut, hfirst⟩
  · simp only [read_of_uncut huncut, bind_eq_ok_iff, readNumber_eq_ok_iff, portOf_eq_ok_iff]
    constructor
    · rintro ⟨n, hn, hremote, rfl⟩
      exact .lone huncut hn hremote
    · intro h
      generalize (strip described).toList = text at h huncut
      cases h with
      | lone _ hn hremote => exact ⟨_, hn, hremote, rfl⟩
      | pair => simp at huncut
  · simp only [read_of_cut hcut hfirst, bind_eq_ok_iff, readLocal_eq_ok_iff, readNumber_eq_ok_iff,
      portOf_eq_ok_iff]
    constructor
    · rintro ⟨m, hm, n, hn, hremote, rfl⟩
      rw [hcut]
      exact .pair hfirst hm hn hremote
    · intro h
      generalize (strip described).toList = text at h hcut
      cases h with
      | lone huncut => simp [hcut] at huncut
      | pair hfirst' hm hn hremote =>
          have hsame := (cutAtFirst_eq_some_iff.mpr ⟨rfl, hfirst'⟩).symm.trans
            (cutAtFirst_eq_some_iff.mpr ⟨hcut, hfirst⟩)
          cases hsame
          exact ⟨_, hm, _, hn, hremote, rfl⟩

/-- A description that is not read fails for the reason that it describes no port for. -/
theorem read_eq_error_iff : Port.read described = .error failure ↔
    ∃ why, DescribesNone (strip described).toList why ∧ failure = why (strip described) := by
  rcases uncut_or_cut (strip described).toList with huncut | ⟨before, after, hcut, hfirst⟩
  · simp only [read_of_uncut huncut, bind_eq_error_iff, readNumber_eq_ok_iff,
      readNumber_eq_error_iff, portOf_eq_error_iff]
    constructor
    · rintro (⟨why, hwhy, hfailure⟩ | ⟨n, hn, rfl, hfailure⟩)
      · exact ⟨why, .lone huncut hwhy, hfailure⟩
      · exact ⟨_, .loneZero huncut hn, hfailure⟩
    · rintro ⟨why, hwhy, hfailure⟩
      generalize (strip described).toList = text at hwhy huncut
      cases hwhy with
      | lone _ hwhy => exact Or.inl ⟨why, hwhy, hfailure⟩
      | loneZero _ hn => exact Or.inr ⟨0, hn, rfl, hfailure⟩
      | locally | remotely | remoteZero => simp at huncut
  · simp only [read_of_cut hcut hfirst, bind_eq_error_iff, readLocal_eq_ok_iff,
      readLocal_eq_error_iff, readNumber_eq_ok_iff, readNumber_eq_error_iff, portOf_eq_error_iff]
    constructor
    · rintro (⟨hgiven, why, hwhy, hfailure⟩ | ⟨m, hm, ⟨why, hwhy, hfailure⟩ |
        ⟨n, hn, rfl, hfailure⟩⟩) <;> rw [hcut]
      · exact ⟨why, .locally hfirst hgiven hwhy, hfailure⟩
      · exact ⟨why, .remotely hfirst hm hwhy, hfailure⟩
      · exact ⟨_, .remoteZero hfirst hm hn, hfailure⟩
    · rintro ⟨why, hwhy, hfailure⟩
      generalize (strip described).toList = text at hwhy hcut
      have hsame {before' after' : List Char} (htext : text = before' ++ ':' :: after')
          (hfirst' : ':' ∉ before') : before' = before ∧ after' = after := by
        have hcuts := (cutAtFirst_eq_some_iff.mpr ⟨htext, hfirst'⟩).symm.trans
          (cutAtFirst_eq_some_iff.mpr ⟨hcut, hfirst⟩)
        simpa using hcuts
      cases hwhy with
      | lone huncut | loneZero huncut => simp [hcut] at huncut
      | locally hfirst' hgiven hwhy =>
          obtain ⟨rfl, rfl⟩ := hsame rfl hfirst'
          exact Or.inl ⟨hgiven, why, hwhy, hfailure⟩
      | remotely hfirst' hm hwhy =>
          obtain ⟨rfl, rfl⟩ := hsame rfl hfirst'
          exact Or.inr ⟨_, hm, Or.inl ⟨why, hwhy, hfailure⟩⟩
      | remoteZero hfirst' hm hn =>
          obtain ⟨rfl, rfl⟩ := hsame rfl hfirst'
          exact Or.inr ⟨_, hm, Or.inr ⟨0, hn, rfl, hfailure⟩⟩

/-- Whatever describes no port is refused, and nothing else. -/
theorem not_describes_iff : (¬ ∃ port, Describes (strip described).toList port) ↔
    ∃ why, DescribesNone (strip described).toList why := by
  constructor
  · intro h
    cases hread : Port.read described with
    | ok port => exact absurd ⟨port, read_eq_ok_iff.mp hread⟩ h
    | error failure =>
        obtain ⟨why, hwhy, -⟩ := read_eq_error_iff.mp hread
        exact ⟨why, hwhy⟩
  · rintro ⟨why, hwhy⟩ ⟨port, hport⟩
    cases (read_eq_error_iff.mpr ⟨why, hwhy, rfl⟩).symm.trans (read_eq_ok_iff.mpr hport)

theorem DescribesNone.kind {why : String → Failure} (h : DescribesNone text why)
    (written : String) : (why written).kind = .configuration := by
  cases h with
  | lone _ h | locally _ _ h | remotely _ _ h => cases h <;> rfl
  | loneZero | remoteZero => rfl

/-! ## Ports and their descriptions -/

/-- A port with numbers that a port can have, of which only the local one may be any free one. -/
structure Port.InRange (port : Port) : Prop where
  localPort : port.localPort ≤ maxPort
  remotePort : port.remotePort ≤ maxPort
  remotePort_ne_zero : port.remotePort ≠ 0

theorem Describes.inRange (h : Describes text port) : port.InRange := by
  cases h with
  | lone _ number remote => exact ⟨number.2, number.2, remote⟩
  | pair _ localNumber number remote =>
      refine ⟨?_, number.2, remote⟩
      rcases localNumber with ⟨-, rfl⟩ | hlocal
      · exact Nat.zero_le _
      · exact hlocal.2

/-- The usual notation of a number consists of the usual digits. -/
theorem bounds_of_mem_toString {c : Char} (h : c ∈ (toString n).toList) :
    48 ≤ c.toNat ∧ c.toNat ≤ 57 := by
  rw [Nat.toString_eq_ofList_toDigits, String.toList_ofList] at h
  have hdigit := Nat.isDigit_of_mem_toDigits (by omega) (by omega) h
  simpa [Char.isDigit, UInt32.le_iff_toNat_le] using hdigit

theorem portNumber_toString (h : n ≤ maxPort) : PortNumber (toString n).toList n := by
  refine ⟨numeral_toString (lt_of_le_of_lt h ?_), h⟩
  calc maxPort < 10 ^ 5 := by decide
    _ ≤ 10 ^ maxNumeralDigits := Nat.pow_le_pow_right (by omega) (by decide)

/-- The written form of a port describes it. -/
theorem describes_write (h : port.InRange) : Describes (strip port.write).toList port := by
  have hwrite : port.write.toList =
      (toString port.localPort).toList ++ ':' :: (toString port.remotePort).toList := by
    rw [Port.write, String.toList_append, String.toList_append, List.append_assoc]
    rfl
  have hcolon : ':' ∉ (toString port.localPort).toList := fun hmem => by
    have hbounds := bounds_of_mem_toString hmem
    revert hbounds
    decide
  have hblank : ∀ c ∈ port.write.toList, isBlank c = false := by
    intro c hc
    rw [hwrite] at hc
    rcases List.mem_append.mp hc with hc | hc
    · have hbounds := bounds_of_mem_toString hc
      simp [isBlank]
      omega
    · rcases List.mem_cons.mp hc with rfl | hc
      · decide
      · have hbounds := bounds_of_mem_toString hc
        simp [isBlank]
        omega
  rw [strip, String.toList_ofList, trimBoth_of_not_mem hblank, hwrite]
  exact .pair hcolon (Or.inr (portNumber_toString h.localPort)) (portNumber_toString h.remotePort)
    h.remotePort_ne_zero

/-- **Exactly the descriptions of ports are read.** A list of texts is read if and only if every
text describes a port, each by itself; otherwise the failure is a mistake in the configuration that
names the first text that describes none. What is read is in range, and every port in range can be
described. -/
theorem readPorts_law (described : List String) :
    (∀ ports, readPorts described = .ok ports ↔
      List.Forall₂ (fun entry port => Describes (strip entry).toList port) described ports) ∧
    (∀ failure, readPorts described = .error failure ↔ ∃ before entry after why,
      described = before ++ entry :: after ∧
      (∀ earlier ∈ before, ∃ port, Describes (strip earlier).toList port) ∧
      (¬ ∃ port, Describes (strip entry).toList port) ∧
      DescribesNone (strip entry).toList why ∧ failure = why (strip entry)) ∧
    (∀ failure, readPorts described = .error failure → failure.kind = .configuration) ∧
    (∀ ports, readPorts described = .ok ports → ∀ port ∈ ports, port.InRange) ∧
    ∀ ports : List Port, (∀ port ∈ ports, port.InRange) →
      readPorts (ports.map Port.write) = .ok ports := by
  have hread : ∀ (entries : List String) (ports : List Port), readPorts entries = .ok ports ↔
      List.Forall₂ (fun entry port => Describes (strip entry).toList port) entries ports := by
    intro entries ports
    simp only [readPorts, mapM_eq_ok_iff, read_eq_ok_iff]
  have hfails : ∀ failure, readPorts described = .error failure ↔ ∃ before entry after why,
      described = before ++ entry :: after ∧
      (∀ earlier ∈ before, ∃ port, Describes (strip earlier).toList port) ∧
      (¬ ∃ port, Describes (strip entry).toList port) ∧
      DescribesNone (strip entry).toList why ∧ failure = why (strip entry) := by
    intro failure
    simp only [readPorts, mapM_eq_error_iff, read_eq_ok_iff, read_eq_error_iff]
    constructor
    · rintro ⟨before, entry, after, hsplit, hbefore, why, hwhy, hfailure⟩
      exact ⟨before, entry, after, why, hsplit, hbefore, not_describes_iff.mpr ⟨why, hwhy⟩, hwhy,
        hfailure⟩
    · rintro ⟨before, entry, after, why, hsplit, hbefore, -, hwhy, hfailure⟩
      exact ⟨before, entry, after, hsplit, hbefore, why, hwhy, hfailure⟩
  refine ⟨hread described, hfails, ?_, ?_, ?_⟩
  · intro failure hfailure
    obtain ⟨_, entry, _, why, -, -, -, hwhy, rfl⟩ := (hfails failure).mp hfailure
    exact hwhy.kind _
  · intro ports hports port hport
    obtain ⟨i, hi, rfl⟩ := List.getElem_of_mem hport
    have hall := List.forall₂_iff_get.mp ((hread described ports).mp hports)
    exact (hall.2 i (by rw [hall.1]; exact hi) hi).inRange
  · intro ports hports
    rw [hread, List.forall₂_map_left_iff, List.forall₂_same]
    exact fun port hport => describes_write (hports port hport)

/-- A sign, an underscore, a blank before the colon and digits of another script are all read, and
what was read can be written and read again. -/
theorem readPorts_liberal :
    let described := [" 8_080 :+80", ":٤٤٣"]
    let ports : List Port := [⟨8080, 80⟩, ⟨0, 443⟩]
    readPorts described = .ok ports ∧ (∀ port ∈ ports, port.InRange) ∧
      readPorts (ports.map Port.write) = .ok ports := by
  intro described ports
  have hports : readPorts described = .ok ports := by decide +kernel
  have hrange := (readPorts_law described).2.2.2.1 ports hports
  exact ⟨hports, hrange, (readPorts_law described).2.2.2.2 ports hrange⟩

end PodReach.Forward
