import Mathlib.Algebra.Group.Nat.Defs
import Mathlib.Data.List.Induction
import Mathlib.Tactic.SplitIfs
import PodReach.Text.Utf8

/-!
# Decoding with replacement

What the decoder yields, said without its states. Bytes that encode a character stand for it. Where
no character is encoded, the longest run of bytes that a character could still begin with becomes
one replacement character, and a byte that begins none becomes one of its own. This reading of bytes
exists and is the only one, and the decoder computes it.
-/

namespace PodReach.Text

open String (utf8EncodeChar)

/-! ## Readings -/

/-- Bytes with which the encoding of some character begins. -/
def BeginsChar (bytes : List UInt8) : Prop :=
  ∃ c, bytes <+: utf8EncodeChar c

/-- Bytes that are replaced together, given what comes after them: they hold no character, a
character could begin with them unless there is only one of them, and with the next byte as well
no character could. -/
structure Spoiled (bad rest : List UInt8) : Prop where
  ne_nil : bad ≠ []
  incomplete : ∀ c, ¬ utf8EncodeChar c <+: bad
  together : BeginsChar bad ∨ ∃ b, bad = [b]
  longest : ∀ b later, rest = b :: later → ¬ BeginsChar (bad ++ [b])

/-- The text that bytes stand for. -/
inductive Decodes : List UInt8 → List Char → Prop
  | nil : Decodes [] []
  /-- An encoded character. -/
  | char {rest : List UInt8} {text : List Char} (c : Char) (more : Decodes rest text) :
      Decodes (utf8EncodeChar c ++ rest) (c :: text)
  /-- Bytes that are replaced. -/
  | spoiled {bad rest : List UInt8} {text : List Char} (spoiled : Spoiled bad rest)
      (more : Decodes rest text) : Decodes (bad ++ rest) (replacement :: text)

/-! ## Encodings in numbers -/

/-- How many bytes the encoding of a code point has. -/
def encodedSize (code : Nat) : Nat :=
  if code ≤ 0x7F then 1 else if code ≤ 0x7FF then 2 else if code ≤ 0xFFFF then 3 else 4

/-- The first byte of the encoding of a code point. -/
def leadByte (code : Nat) : Nat :=
  if code ≤ 0x7F then code
  else if code ≤ 0x7FF then 0xC0 + code / 64
  else if code ≤ 0xFFFF then 0xE0 + code / 4096
  else 0xF0 + code / 262144

theorem toNat_lt (c : Char) : c.toNat < 0xD800 ∨ 0xDFFF < c.toNat ∧ c.toNat < 0x110000 :=
  c.valid

theorem toNat_ofNat_of_valid {code : Nat} (h : code.isValidChar) :
    (Char.ofNat code).toNat = code := by
  rw [Char.ofNat, dif_pos h]
  rfl

theorem length_utf8EncodeChar (c : Char) :
    (utf8EncodeChar c).length = encodedSize c.toNat := by
  change (utf8EncodeChar c).length = encodedSize c.val.toNat
  unfold utf8EncodeChar encodedSize
  dsimp only
  split_ifs <;> rfl

/-- An encoding is its first byte and six bits of the code point in every later one. -/
theorem utf8EncodeChar_eq (c : Char) :
    ∃ tail, utf8EncodeChar c = UInt8.ofNat (leadByte c.toNat) :: tail ∧
      ∀ i, i + 1 < encodedSize c.toNat → tail[i]? = some (UInt8.ofNat
        (0x80 + c.toNat / 64 ^ (encodedSize c.toNat - 2 - i) % 64)) := by
  have hcode := toNat_lt c
  change c.val.toNat < _ ∨ _ < c.val.toNat ∧ c.val.toNat < _ at hcode
  change ∃ tail, utf8EncodeChar c = UInt8.ofNat (leadByte c.val.toNat) :: tail ∧
    ∀ i, i + 1 < encodedSize c.val.toNat → tail[i]? = some (UInt8.ofNat
      (0x80 + c.val.toNat / 64 ^ (encodedSize c.val.toNat - 2 - i) % 64))
  unfold utf8EncodeChar leadByte encodedSize
  dsimp only
  split_ifs with h1 h2 h3
  · exact ⟨[], rfl, fun i hi => by omega⟩
  · refine ⟨_, by rw [Nat.add_comm, Nat.mod_eq_of_lt (by omega)], fun i hi => ?_⟩
    obtain rfl : i = 0 := by omega
    simp [Nat.add_comm]
  · refine ⟨_, by rw [Nat.add_comm, Nat.mod_eq_of_lt (by omega)], fun i hi => ?_⟩
    obtain rfl | rfl : i = 0 ∨ i = 1 := by omega
    all_goals simp [Nat.add_comm]
  · refine ⟨_, by rw [Nat.add_comm, Nat.mod_eq_of_lt (by omega)], fun i hi => ?_⟩
    obtain rfl | rfl | rfl : i = 0 ∨ i = 1 ∨ i = 2 := by omega
    all_goals simp [Nat.add_comm]

/-- The first byte of an encoding tells how long it is. -/
theorem encodedSize_eq_of_leadByte_eq {c d : Char}
    (h : UInt8.ofNat (leadByte c.toNat) = UInt8.ofNat (leadByte d.toNat)) :
    encodedSize c.toNat = encodedSize d.toNat := by
  have hc := toNat_lt c
  have hd := toNat_lt d
  have hlead := congrArg UInt8.toNat h
  simp only [UInt8.toNat_ofNat', leadByte] at hlead
  unfold encodedSize
  split_ifs at hlead ⊢ <;> omega

/-- No encoding begins with another one. -/
theorem eq_of_encoded_append_eq {c d : Char} {rest rest' : List UInt8}
    (h : utf8EncodeChar c ++ rest = utf8EncodeChar d ++ rest') : c = d ∧ rest = rest' := by
  obtain ⟨tail, hc, -⟩ := utf8EncodeChar_eq c
  obtain ⟨tail', hd, -⟩ := utf8EncodeChar_eq d
  have hlead : UInt8.ofNat (leadByte c.toNat) = UInt8.ofNat (leadByte d.toNat) := by
    rw [hc, hd] at h
    exact (List.cons.inj h).1
  have hlength : (utf8EncodeChar c).length = (utf8EncodeChar d).length := by
    rw [length_utf8EncodeChar, length_utf8EncodeChar, encodedSize_eq_of_leadByte_eq hlead]
  obtain ⟨hbytes, hrest⟩ := List.append_inj h hlength
  have hread : some c = some d := by
    rw [← ByteArray.utf8DecodeChar?_utf8EncodeChar_append (b := .empty) (c := c), hbytes,
      ByteArray.utf8DecodeChar?_utf8EncodeChar_append]
  exact ⟨Option.some.inj hread, hrest⟩

/-- Bytes and one more begin something when the bytes do and the next of it is the one more. -/
theorem append_singleton_isPrefix_iff {bytes whole : List UInt8} {b : UInt8} :
    bytes ++ [b] <+: whole ↔ bytes <+: whole ∧ whole[bytes.length]? = some b := by
  constructor
  · rintro ⟨later, rfl⟩
    simp
  · rintro ⟨⟨later, rfl⟩, hnext⟩
    cases later with
    | nil => simp at hnext
    | cons b' later =>
        simp only [List.getElem?_append_right (Nat.le_refl _), Nat.sub_self,
          List.getElem?_cons_zero, Option.some.injEq] at hnext
        exact ⟨later, by simp [hnext]⟩

/-! ## Unfinished characters -/

/-- What a state of the decoder says about the bytes since the last character: the code points
whose encodings begin with them are those with these leading bits, and the next byte can be any
byte of its range. -/
structure Awaits (part : List UInt8) (p : Unfinished) : Prop where
  ne_nil : part ≠ []
  missing_pos : 0 < p.missing
  range : 0x80 ≤ p.low ∧ p.low < p.high ∧ p.high ≤ 0xBF
  begins_iff : ∀ c : Char, part <+: utf8EncodeChar c ↔
    encodedSize c.toNat = part.length + p.missing ∧ c.toNat / 64 ^ p.missing = p.bits
  bounded : ∀ c : Char, part <+: utf8EncodeChar c →
    p.low ≤ 0x80 + c.toNat / 64 ^ (p.missing - 1) % 64 ∧
      0x80 + c.toNat / 64 ^ (p.missing - 1) % 64 ≤ p.high
  full : ∀ b, p.low ≤ b → b ≤ p.high → ∀ code,
    code / 64 ^ (p.missing - 1) = p.bits * 64 + (b - 0x80) →
      code.isValidChar ∧ encodedSize code = part.length + p.missing

namespace Awaits

variable {part : List UInt8} {p : Unfinished} {b : UInt8}

/-- The next byte holds the next six bits. -/
theorem append_isPrefix_iff (h : Awaits part p) (c : Char) :
    part ++ [b] <+: utf8EncodeChar c ↔ part <+: utf8EncodeChar c ∧
      b.toNat = 0x80 + c.toNat / 64 ^ (p.missing - 1) % 64 := by
  rw [append_singleton_isPrefix_iff]
  refine and_congr_right fun hbegins => ?_
  have hsize := ((h.begins_iff c).mp hbegins).1
  have hmissing := h.missing_pos
  obtain ⟨first, later, rfl⟩ := List.exists_cons_of_ne_nil h.ne_nil
  obtain ⟨tail, hencoded, htail⟩ := utf8EncodeChar_eq c
  rw [List.length_cons] at hsize ⊢
  rw [hencoded, List.getElem?_cons_succ, htail later.length (by omega),
    show encodedSize c.toNat - 2 - later.length = p.missing - 1 by omega, Option.some.injEq,
    ← UInt8.toNat_inj, UInt8.toNat_ofNat', Nat.mod_eq_of_lt (by omega), eq_comm]

/-- The first code point whose encoding begins with the bytes and one more in the range. -/
theorem exists_code (h : Awaits part p) (hlow : p.low ≤ b.toNat) (hhigh : b.toNat ≤ p.high) :
    ∃ c : Char, c.toNat = (p.bits * 64 + (b.toNat - 0x80)) * 64 ^ (p.missing - 1) ∧
      part ++ [b] <+: utf8EncodeChar c := by
  obtain ⟨hrange, -, hrange'⟩ := h.range
  have hpower : 0 < 64 ^ (p.missing - 1) := Nat.pow_pos (by decide)
  have hdiv := Nat.mul_div_cancel (p.bits * 64 + (b.toNat - 0x80)) hpower
  obtain ⟨hvalid, hsize⟩ := h.full b.toNat hlow hhigh _ hdiv
  have hcode := toNat_ofNat_of_valid hvalid
  refine ⟨Char.ofNat _, hcode, ?_⟩
  rw [h.append_isPrefix_iff, h.begins_iff, hcode, hdiv]
  have hsplit : 64 ^ p.missing = 64 ^ (p.missing - 1) * 64 := by
    rw [← Nat.pow_succ]
    congr 1
    have := h.missing_pos
    omega
  rw [hsplit, ← Nat.div_div_eq_div_mul, hdiv]
  exact ⟨⟨hsize, by omega⟩, by omega⟩

/-- A character can go on with the bytes of the range and with no others. -/
theorem beginsChar_iff (h : Awaits part p) :
    BeginsChar (part ++ [b]) ↔ p.low ≤ b.toNat ∧ b.toNat ≤ p.high := by
  constructor
  · rintro ⟨c, hbegins⟩
    obtain ⟨hpart, hb⟩ := (h.append_isPrefix_iff c).mp hbegins
    rw [hb]
    exact h.bounded c hpart
  · rintro ⟨hlow, hhigh⟩
    obtain ⟨c, -, hbegins⟩ := h.exists_code hlow hhigh
    exact ⟨c, hbegins⟩

/-- Some character begins with the bytes. -/
theorem beginsChar (h : Awaits part p) : BeginsChar part := by
  obtain ⟨-, hrange, hhigh⟩ := h.range
  have hlow : (UInt8.ofNat p.low).toNat = p.low := by
    rw [UInt8.toNat_ofNat', Nat.mod_eq_of_lt (by omega)]
  obtain ⟨c, -, hbegins⟩ := h.exists_code (b := UInt8.ofNat p.low) (by omega) (by omega)
  exact ⟨c, (List.prefix_append _ _).trans hbegins⟩

/-- The bytes hold no character. -/
theorem incomplete (h : Awaits part p) (c : Char) : ¬ utf8EncodeChar c <+: part := by
  intro hholds
  obtain ⟨d, hbegins⟩ := h.beginsChar
  obtain ⟨later, hlater⟩ := hholds.trans hbegins
  have hsame : utf8EncodeChar c ++ later = utf8EncodeChar d ++ [] := by
    rw [hlater, List.append_nil]
  obtain ⟨rfl, -⟩ := eq_of_encoded_append_eq hsame
  have hsize := ((h.begins_iff c).mp hbegins).1
  have hle := hholds.length_le
  have hmissing := h.missing_pos
  rw [length_utf8EncodeChar] at hle
  omega

/-- The last missing byte completes the character. -/
theorem complete (h : Awaits part p) (hlow : p.low ≤ b.toNat) (hhigh : b.toNat ≤ p.high)
    (hlast : p.missing ≤ 1) :
    utf8EncodeChar (Char.ofNat (p.bits * 64 + (b.toNat - 0x80))) = part ++ [b] := by
  have hone : p.missing = 1 := by
    have := h.missing_pos
    omega
  obtain ⟨c, hcode, hbegins⟩ := h.exists_code hlow hhigh
  have hsize := ((h.begins_iff c).mp ((List.prefix_append _ _).trans hbegins)).1
  rw [hone, Nat.sub_self, Nat.pow_zero, Nat.mul_one] at hcode
  rw [← hcode, Char.ofNat_toNat]
  refine (hbegins.eq_of_length ?_).symm
  rw [length_utf8EncodeChar, hsize, hone, List.length_append, List.length_singleton]

/-- A byte of the range leaves the character unfinished while more are missing. -/
theorem next (h : Awaits part p) (hlow : p.low ≤ b.toNat) (hhigh : b.toNat ≤ p.high)
    (hmore : 1 < p.missing) :
    Awaits (part ++ [b]) ⟨p.bits * 64 + (b.toNat - 0x80), p.missing - 1, 0x80, 0xBF⟩ := by
  obtain ⟨hrange, -, hrange'⟩ := h.range
  have hsplit : ∀ code, code / 64 ^ p.missing = code / 64 ^ (p.missing - 1) / 64 := by
    intro code
    rw [Nat.div_div_eq_div_mul, ← Nat.pow_succ, Nat.succ_eq_add_one, Nat.sub_add_cancel (by omega)]
  have hsplit' : ∀ code, code / 64 ^ (p.missing - 1) = code / 64 ^ (p.missing - 1 - 1) / 64 := by
    intro code
    rw [Nat.div_div_eq_div_mul, ← Nat.pow_succ, Nat.succ_eq_add_one, Nat.sub_add_cancel (by omega)]
  have hlength : (part ++ [b]).length + (p.missing - 1) = part.length + p.missing := by
    rw [List.length_append, List.length_singleton]
    omega
  refine ⟨by simp, Nat.sub_pos_of_lt hmore, by simp, ?_, ?_, ?_⟩
  · intro c
    dsimp only
    rw [h.append_isPrefix_iff, h.begins_iff, hlength, hsplit, and_assoc]
    exact and_congr_right fun _ => by omega
  · intro c _
    dsimp only
    omega
  · intro b' hlow' hhigh' code hcode
    dsimp only at hlow' hhigh' hcode ⊢
    rw [hlength]
    apply h.full b.toNat hlow hhigh
    rw [hsplit', hcode]
    omega

end Awaits

/-! ## The first byte of a character -/

section Lead

variable {b : UInt8}

theorem singleton_isPrefix_iff (c : Char) :
    [b] <+: utf8EncodeChar c ↔ b.toNat = leadByte c.toNat := by
  have hcode := toNat_lt c
  obtain ⟨tail, hencoded, -⟩ := utf8EncodeChar_eq c
  have hlead : leadByte c.toNat < 256 := by
    unfold leadByte
    split_ifs <;> omega
  rw [hencoded, List.cons_prefix_cons, ← UInt8.toNat_inj, UInt8.toNat_ofNat',
    Nat.mod_eq_of_lt hlead]
  simp

/-- A byte that leaves a character unfinished. -/
theorem awaits_of_startChar {p : Unfinished} {out : List Char}
    (h : startChar b.toNat = (some p, out)) : out = [] ∧ Awaits [b] p := by
  have hsome : ∀ {p' : Unfinished}, (some p', ([] : List Char)) = (some p, out) →
      out = [] ∧ p = p' := by
    rintro p' ⟨⟩
    exact ⟨rfl, rfl⟩
  unfold startChar beforeSurrogates at h
  simp only [Bool.and_eq_true, decide_eq_true_eq, beq_iff_eq] at h
  split_ifs at h with hascii htwo he0 hed hthree hf0 hfour hf4
  case pos => cases h
  case neg => cases h
  all_goals
    obtain ⟨rfl, rfl⟩ := hsome h
    refine ⟨rfl, by simp, by simp, by simp, fun c => ?_, fun c hc => ?_,
      fun b' hlow hhigh code hcode => ?_⟩
    · have hcode := toNat_lt c
      rw [singleton_isPrefix_iff]
      simp only [leadByte, encodedSize, List.length_singleton, Nat.reducePow]
      split_ifs <;> omega
    · have hcode := toNat_lt c
      rw [singleton_isPrefix_iff] at hc
      simp only [leadByte, Nat.reducePow, Nat.reduceSub] at hc ⊢
      split_ifs at hc <;> omega
    · simp only [Nat.reducePow, Nat.reduceSub] at hlow hhigh hcode
      simp only [encodedSize, Nat.isValidChar, List.length_singleton]
      split_ifs <;> omega

/-- A byte that leaves nothing unfinished is a character or begins none. -/
theorem complete_of_startChar {out : List Char} (h : startChar b.toNat = (none, out)) :
    (∃ c, out = [c] ∧ utf8EncodeChar c = [b]) ∨ out = [replacement] ∧ ¬ BeginsChar [b] := by
  by_cases hascii : b.toNat < 0x80
  · have hcode : (Char.ofNat b.toNat).toNat = b.toNat :=
      toNat_ofNat_of_valid (Or.inl (by omega))
    have hbegins : [b] <+: utf8EncodeChar (Char.ofNat b.toNat) := by
      rw [singleton_isPrefix_iff, hcode, leadByte, if_pos (by omega)]
    rw [startChar, if_pos hascii] at h
    cases h
    refine Or.inl ⟨_, rfl, (hbegins.eq_of_length ?_).symm⟩
    rw [length_utf8EncodeChar, hcode, encodedSize, if_pos (by omega), List.length_singleton]
  · rw [startChar, if_neg hascii] at h
    simp only [Bool.and_eq_true, decide_eq_true_eq, beq_iff_eq] at h
    split_ifs at h with htwo he0 hed hthree hf0 hfour hf4
    case neg =>
      cases h
      refine Or.inr ⟨rfl, ?_⟩
      rintro ⟨c, hbegins⟩
      have hcode := toNat_lt c
      rw [singleton_isPrefix_iff] at hbegins
      unfold leadByte at hbegins
      split_ifs at hbegins <;> omega
    all_goals cases h

/-- A byte that continues a character begins none. -/
theorem not_beginsChar_of_continues (h : 0x80 ≤ b.toNat ∧ b.toNat ≤ 0xBF) :
    ¬ BeginsChar [b] := by
  rintro ⟨c, hbegins⟩
  have hcode := toNat_lt c
  rw [singleton_isPrefix_iff] at hbegins
  unfold leadByte at hbegins
  split_ifs at hbegins <;> omega

end Lead

/-! ## What is held back -/

/-- The first two bytes that the encoding of a surrogate would have. -/
structure CutSurrogate (first second : UInt8) : Prop where
  first : first.toNat = 0xED
  second : 0xA0 ≤ second.toNat ∧ second.toNat ≤ 0xBF

/-- The bytes that a decoder holds back in a state. -/
inductive HoldsBack : List UInt8 → PartialChar → Prop
  | unfinished {part : List UInt8} {p : Unfinished} (awaits : Awaits part p) :
      HoldsBack part (.unfinished p)
  | surrogate {first second : UInt8} (cut : CutSurrogate first second) :
      HoldsBack [first, second] .surrogate

/-- A character of the block of the surrogates has one byte so far. -/
theorem eq_singleton_of_beforeSurrogates {part : List UInt8}
    (h : Awaits part beforeSurrogates) : ∃ first : UInt8, part = [first] ∧ first.toNat = 0xED := by
  obtain ⟨c, hbegins⟩ := h.beginsChar
  obtain ⟨hsize, hbits⟩ := (h.begins_iff c).mp hbegins
  simp only [beforeSurrogates, Nat.reducePow] at hsize hbits
  have hlength : part.length = 1 := by
    unfold encodedSize at hsize
    split_ifs at hsize <;> omega
  obtain ⟨first, rfl⟩ := List.length_eq_one_iff.mp hlength
  refine ⟨first, rfl, ?_⟩
  rw [(singleton_isPrefix_iff c).mp hbegins]
  unfold leadByte
  split_ifs <;> omega

theorem awaits_beforeSurrogates {first : UInt8} (h : first.toNat = 0xED) :
    Awaits [first] beforeSurrogates := by
  have hstart : startChar first.toNat = (some beforeSurrogates, []) := by
    rw [h]
    rfl
  exact (awaits_of_startChar hstart).2

theorem makesSurrogate_iff {p : Unfinished} {byte : Nat} :
    makesSurrogate p byte = true ↔ p = beforeSurrogates ∧ 0xA0 ≤ byte ∧ byte ≤ 0xBF := by
  simp [makesSurrogate, and_assoc]

/-- Nothing but replacements comes from what is held back at the end. -/
theorem eq_replacement_of_mem_decodeEnd {state : Option PartialChar} {c : Char}
    (h : c ∈ decodeEnd state) : c = replacement := by
  rcases state with _ | _ | _ <;> simp_all [decodeEnd]

/-! ## The decoder reads -/

/-- The text from a state of the decoder to the end of the input. -/
def decodeFrom (state : Option PartialChar) (bytes : List UInt8) : List Char :=
  (decodePiece state bytes).2 ++ decodeEnd (decodePiece state bytes).1

theorem decodeFrom_cons (state : Option PartialChar) (b : UInt8) (rest : List UInt8) :
    decodeFrom state (b :: rest) =
      (decodeByte state b).2 ++ decodeFrom (decodeByte state b).1 rest := by
  simp [decodeFrom, decodePiece, List.append_assoc]

section Byte

variable {p : Unfinished} {b : UInt8}

theorem decodeByte_none (b : UInt8) :
    decodeByte none b = ((startChar b.toNat).1.map .unfinished, (startChar b.toNat).2) := rfl

theorem decodeByte_of_last (hrange : p.low ≤ b.toNat ∧ b.toNat ≤ p.high) (hlast : p.missing ≤ 1) :
    decodeByte (some (.unfinished p)) b =
      (none, [Char.ofNat (p.bits * 64 + (b.toNat - 0x80))]) := by
  simp [decodeByte, hrange, hlast]

theorem decodeByte_of_more (hrange : p.low ≤ b.toNat ∧ b.toNat ≤ p.high) (hmore : 1 < p.missing) :
    decodeByte (some (.unfinished p)) b =
      (some (.unfinished ⟨p.bits * 64 + (b.toNat - 0x80), p.missing - 1, 0x80, 0xBF⟩), []) := by
  simp [decodeByte, hrange, Nat.not_le.mpr hmore]

theorem decodeByte_of_surrogate (hrange : ¬ (p.low ≤ b.toNat ∧ b.toNat ≤ p.high))
    (h : makesSurrogate p b.toNat = true) :
    decodeByte (some (.unfinished p)) b = (some .surrogate, []) := by
  simp [decodeByte, hrange, h]

theorem decodeByte_of_outside (hrange : ¬ (p.low ≤ b.toNat ∧ b.toNat ≤ p.high))
    (h : makesSurrogate p b.toNat = false) :
    decodeByte (some (.unfinished p)) b = startAfter 1 b.toNat := by
  simp [decodeByte, hrange, h]

end Byte

/-- Cutting the input changes nothing. -/
theorem decodeFrom_append (state : Option PartialChar) (bytes more : List UInt8) :
    decodeFrom state (bytes ++ more) =
      (decodePiece state bytes).2 ++ decodeFrom (decodePiece state bytes).1 more := by
  simp [decodeFrom, decodePiece_append, List.append_assoc]

/-- After bytes that were no character, the next byte is read as one that follows a character. -/
theorem decodeFrom_of_startAfter {state : Option PartialChar} {b : UInt8} {spoiled : Nat}
    (h : decodeByte state b = startAfter spoiled b.toNat) (rest : List UInt8) :
    decodeFrom state (b :: rest) =
      List.replicate spoiled replacement ++ decodeFrom none (b :: rest) := by
  rw [decodeFrom_cons, decodeFrom_cons, h, decodeByte_none, startAfter, List.append_assoc]

/-- Whatever comes after a cut surrogate, both of its bytes are replaced. -/
theorem decodeFrom_surrogate (rest : List UInt8) :
    decodeFrom (some .surrogate) rest = [replacement, replacement] ++ decodeFrom none rest := by
  cases rest with
  | nil => rfl
  | cons b rest =>
      have hanew : decodeByte (some .surrogate) b = startAfter 2 b.toNat := rfl
      exact decodeFrom_of_startAfter hanew rest

theorem Awaits.spoiled {part rest : List UInt8} {p : Unfinished} (h : Awaits part p)
    (hrest : ∀ b later, rest = b :: later → ¬ (p.low ≤ b.toNat ∧ b.toNat ≤ p.high)) :
    Spoiled part rest where
  ne_nil := h.ne_nil
  incomplete := h.incomplete
  together := Or.inl h.beginsChar
  longest b later hcons hbegins := hrest b later hcons (h.beginsChar_iff.mp hbegins)

/-- A byte that begins no character is replaced on its own. -/
theorem spoiled_singleton {b : UInt8} (h : ¬ BeginsChar [b]) (rest : List UInt8) :
    Spoiled [b] rest where
  ne_nil := by simp
  incomplete c hholds := by
    obtain ⟨tail, hencoded, -⟩ := utf8EncodeChar_eq c
    rw [hencoded, List.cons_prefix_cons] at hholds
    exact h ⟨c, by rw [hencoded, ← hholds.1]; simp⟩
  together := Or.inr ⟨b, rfl⟩
  longest b' _ _ := by
    rintro ⟨c, hbegins⟩
    exact h ⟨c, (List.prefix_append _ _).trans hbegins⟩

/-- The bytes of a cut surrogate are replaced one by one, whatever comes next. -/
theorem CutSurrogate.decodes {first second : UInt8} {rest : List UInt8} {text : List Char}
    (h : CutSurrogate first second) (more : Decodes rest text) :
    Decodes (first :: second :: rest) (replacement :: replacement :: text) := by
  have hsecond := h.second
  have hfirst : Spoiled [first] (second :: rest) := by
    refine (awaits_beforeSurrogates h.first).spoiled ?_
    rintro _ _ ⟨⟩
    simp only [beforeSurrogates]
    omega
  have hcontinues : ¬ BeginsChar [second] := not_beginsChar_of_continues (by omega)
  exact .spoiled hfirst (.spoiled (spoiled_singleton hcontinues rest) more)

/-- From the start and from everything that can be held back, the decoder reads the rest of the
input. -/
theorem decodes_decodeFrom (bytes : List UInt8) :
    Decodes bytes (decodeFrom none bytes) ∧
      ∀ part p, HoldsBack part p → Decodes (part ++ bytes) (decodeFrom (some p) bytes) := by
  induction bytes with
  | nil =>
      refine ⟨.nil, fun part p h => ?_⟩
      cases h with
      | unfinished awaits => exact .spoiled (awaits.spoiled (by simp)) .nil
      | surrogate cut => exact cut.decodes .nil
  | cons b rest ih =>
      obtain ⟨ihNone, ihSome⟩ := ih
      have hstart : Decodes (b :: rest) (decodeFrom none (b :: rest)) := by
        rw [decodeFrom_cons, decodeByte_none]
        rcases hchar : startChar b.toNat with ⟨_ | p, out⟩
        · rcases complete_of_startChar hchar with ⟨c, rfl, hencoded⟩ | ⟨rfl, hbegins⟩
          · have h := Decodes.char c ihNone
            rw [hencoded] at h
            exact h
          · exact .spoiled (spoiled_singleton hbegins rest) ihNone
        · obtain ⟨rfl, hawaits⟩ := awaits_of_startChar hchar
          exact ihSome [b] _ (.unfinished hawaits)
      refine ⟨hstart, fun part p h => ?_⟩
      cases h with
      | surrogate cut =>
          rw [decodeFrom_surrogate]
          exact cut.decodes hstart
      | @unfinished part p h =>
          by_cases hrange : p.low ≤ b.toNat ∧ b.toNat ≤ p.high
          · rw [decodeFrom_cons, List.append_cons]
            rcases Nat.lt_or_ge 1 p.missing with hmore | hlast
            · rw [decodeByte_of_more hrange hmore]
              exact ihSome _ _ (.unfinished (h.next hrange.1 hrange.2 hmore))
            · rw [decodeByte_of_last hrange hlast, ← h.complete hrange.1 hrange.2 hlast]
              exact .char _ ihNone
          · cases hsurrogate : makesSurrogate p b.toNat with
            | true =>
                obtain ⟨rfl, hsecond⟩ := makesSurrogate_iff.mp hsurrogate
                obtain ⟨first, rfl, hfirst⟩ := eq_singleton_of_beforeSurrogates h
                rw [decodeFrom_cons, decodeByte_of_surrogate hrange hsurrogate, List.append_cons]
                exact ihSome _ _ (.surrogate ⟨hfirst, hsecond⟩)
            | false =>
                -- the byte is read again, as one that follows a character
                rw [decodeFrom_of_startAfter (decodeByte_of_outside hrange hsurrogate)]
                refine .spoiled (h.spoiled ?_) hstart
                rintro _ _ ⟨⟩
                exact hrange

/-- The decoder yields a reading of its input. -/
theorem decodes_decodeUtf8 (bytes : List UInt8) : Decodes bytes (decodeUtf8 bytes) :=
  (decodes_decodeFrom bytes).1

/-! ## There is one reading -/

namespace Spoiled

variable {bad bad' rest rest' : List UInt8}

/-- Bytes that are replaced are not the beginning of an encoded character. -/
theorem ne_encoded (h : Spoiled bad rest) (c : Char) (later : List UInt8) :
    bad ++ rest ≠ utf8EncodeChar c ++ later := by
  intro heq
  rcases List.append_eq_append_iff.mp heq with ⟨more, hencoded, hrest⟩ | ⟨more, hbad, -⟩
  · cases more with
    | nil => exact h.incomplete c (by simp [hencoded])
    | cons b more => exact h.longest b _ hrest ⟨c, by rw [hencoded]; simp⟩
  · exact h.incomplete c (by rw [hbad]; simp)

/-- The bytes that are replaced together cannot go further in one reading than in another. -/
theorem not_longer {b : UInt8} {more : List UInt8} (h : Spoiled bad (b :: more ++ rest'))
    (h' : Spoiled (bad ++ b :: more) rest') : False := by
  rcases h'.together with ⟨c, hbegins⟩ | ⟨b', hsingle⟩
  · refine h.longest b _ rfl ⟨c, List.IsPrefix.trans ?_ hbegins⟩
    simp
  · have hlength := congrArg List.length hsingle
    have hpos := List.length_pos_iff.mpr h.ne_nil
    simp only [List.length_append, List.length_cons, List.length_nil] at hlength
    omega

/-- Which bytes are replaced together is determined. -/
theorem unique (h : Spoiled bad rest) (h' : Spoiled bad' rest')
    (heq : bad ++ rest = bad' ++ rest') :
    bad = bad' ∧ rest = rest' := by
  rcases List.append_eq_append_iff.mp heq with ⟨more, rfl, rfl⟩ | ⟨more, rfl, rfl⟩
  · cases more with
    | nil => simp
    | cons b more => exact (h.not_longer h').elim
  · cases more with
    | nil => simp
    | cons b more => exact (h'.not_longer h).elim

end Spoiled

/-- Bytes have one reading. -/
theorem Decodes.unique {bytes : List UInt8} {text text' : List Char} (h : Decodes bytes text)
    (h' : Decodes bytes text') : text = text' := by
  generalize hbytes : bytes = other at h'
  induction h generalizing other text' with
  | nil =>
      cases h' with
      | nil => rfl
      | char c more =>
          obtain ⟨tail, hencoded, -⟩ := utf8EncodeChar_eq c
          simp [hencoded] at hbytes
      | spoiled spoiled more =>
          exact absurd (List.append_eq_nil_iff.mp hbytes.symm).1 spoiled.ne_nil
  | char c more ih =>
      cases h' with
      | nil =>
          obtain ⟨tail, hencoded, -⟩ := utf8EncodeChar_eq c
          simp [hencoded] at hbytes
      | char d more' =>
          obtain ⟨rfl, rfl⟩ := eq_of_encoded_append_eq hbytes
          rw [ih _ rfl more']
      | spoiled spoiled more' => exact absurd hbytes.symm (spoiled.ne_encoded c _)
  | spoiled spoiled more ih =>
      cases h' with
      | nil => exact absurd (List.append_eq_nil_iff.mp hbytes).1 spoiled.ne_nil
      | char d more' => exact absurd hbytes (spoiled.ne_encoded d _)
      | spoiled spoiled' more' =>
          obtain ⟨rfl, rfl⟩ := spoiled.unique spoiled' hbytes
          rw [ih _ rfl more']

/-- **What decoding with replacement is.** The decoder yields the one reading of its input. -/
theorem decodes_iff {bytes : List UInt8} {text : List Char} :
    Decodes bytes text ↔ text = decodeUtf8 bytes := by
  constructor
  · intro h
    exact h.unique (decodes_decodeUtf8 bytes)
  · rintro rfl
    exact decodes_decodeUtf8 bytes

/-! ## What is certain before the end -/

/-- A text with which every reading begins that the bytes can still come to. -/
def Certain (bytes : List UInt8) (text : List Char) : Prop :=
  ∀ later whole, Decodes (bytes ++ later) whole → text <+: whole

/-- The text of a part of the input, without what is held back. -/
def decodeSoFar (bytes : List UInt8) : List Char :=
  (decodePiece none bytes).2

/-- The bytes end in the first two of a surrogate. -/
def EndsInSurrogate (bytes : List UInt8) : Prop :=
  ∃ before first second, bytes = before ++ [first, second] ∧ CutSurrogate first second

theorem decodeSoFar_append (bytes more : List UInt8) :
    decodeSoFar (bytes ++ more) =
      decodeSoFar bytes ++ (decodePiece (decodePiece none bytes).1 more).2 := by
  rw [decodeSoFar, decodePiece_append]
  rfl

/-- A byte leaves nothing held back, or bytes that end in it. -/
theorem holdsBack_decodeByte {state : Option PartialChar} {held : List UInt8}
    (hstate : ∀ p, state = some p → HoldsBack held p) (b : UInt8) {p : PartialChar}
    (h : (decodeByte state b).1 = some p) :
    HoldsBack [b] p ∨ state ≠ none ∧ HoldsBack (held ++ [b]) p := by
  have hstart : ∀ {n}, (startAfter n b.toNat).1 = some p → HoldsBack [b] p := by
    intro n hnext
    obtain ⟨q, hq, rfl⟩ := Option.map_eq_some_iff.mp hnext
    exact .unfinished (awaits_of_startChar (Prod.ext hq rfl)).2
  rcases state with _ | q
  · exact Or.inl (hstart (n := 0) h)
  · have hheld := hstate q rfl
    cases hheld with
    | surrogate cut => exact Or.inl (hstart (n := 2) h)
    | @unfinished part q hawaits =>
        by_cases hrange : q.low ≤ b.toNat ∧ b.toNat ≤ q.high
        · rcases Nat.lt_or_ge 1 q.missing with hmore | hlast
          · rw [decodeByte_of_more hrange hmore] at h
            rw [← Option.some.inj h]
            exact Or.inr ⟨nofun, .unfinished (hawaits.next hrange.1 hrange.2 hmore)⟩
          · rw [decodeByte_of_last hrange hlast] at h
            cases h
        · cases hsurrogate : makesSurrogate q b.toNat with
          | true =>
              obtain ⟨rfl, hsecond⟩ := makesSurrogate_iff.mp hsurrogate
              obtain ⟨first, rfl, hfirst⟩ := eq_singleton_of_beforeSurrogates hawaits
              rw [decodeByte_of_surrogate hrange hsurrogate] at h
              rw [← Option.some.inj h]
              exact Or.inr ⟨nofun, .surrogate ⟨hfirst, hsecond⟩⟩
          | false =>
              rw [decodeByte_of_outside hrange hsurrogate] at h
              exact Or.inl (hstart h)

/-- What the decoder holds back are the bytes read last. -/
theorem exists_held (bytes : List UInt8) {p : PartialChar}
    (h : (decodePiece none bytes).1 = some p) :
    ∃ before held, bytes = before ++ held ∧ HoldsBack held p := by
  induction bytes using List.reverseRecOn generalizing p with
  | nil => cases h
  | append_singleton bytes b ih =>
      rw [decodePiece_append] at h
      change (decodeByte (decodePiece none bytes).1 b).1 = some p at h
      cases hstate : (decodePiece none bytes).1 with
      | none =>
          rw [hstate] at h
          have hnone : ∀ p, (none : Option PartialChar) = some p → HoldsBack [] p := nofun
          rcases holdsBack_decodeByte hnone b h with hlast | ⟨hsome, -⟩
          · exact ⟨bytes, [b], rfl, hlast⟩
          · exact absurd rfl hsome
      | some q =>
          obtain ⟨before, held, rfl, hheld⟩ := ih hstate
          rw [hstate] at h
          rcases holdsBack_decodeByte (by rintro _ ⟨⟩; exact hheld) b h with hlast | ⟨-, hmore⟩
          · exact ⟨before ++ held, [b], rfl, hlast⟩
          · exact ⟨before, held ++ [b], List.append_assoc _ _ _, hmore⟩

/-- An unfinished character can still become one that is not the replacement character. -/
theorem Awaits.exists_ne_replacement {part : List UInt8} {p : Unfinished} (h : Awaits part p) :
    ∃ c, c ≠ replacement ∧ part <+: utf8EncodeChar c := by
  obtain ⟨-, hrange, hhigh⟩ := h.range
  have hbyte : ∀ n, n ≤ 0xBF → (UInt8.ofNat n).toNat = n := by
    intro n hn
    rw [UInt8.toNat_ofNat', Nat.mod_eq_of_lt (by omega)]
  have hlow' := hbyte p.low (by omega)
  have hhigh' := hbyte p.high hhigh
  obtain ⟨c, hc, hbegins⟩ := h.exists_code (b := UInt8.ofNat p.low) (by omega) (by omega)
  obtain ⟨d, hd, hbegins'⟩ := h.exists_code (b := UInt8.ofNat p.high) (by omega) (by omega)
  have hne : c ≠ d := by
    rintro rfl
    have hpower : 0 < 64 ^ (p.missing - 1) := Nat.pow_pos (by decide)
    have hbits := Nat.eq_of_mul_eq_mul_right hpower (hc.symm.trans hd)
    have hlow := h.range.1
    omega
  by_cases hreplacement : c = replacement
  · exact ⟨d, fun hd' => hne (hreplacement.trans hd'.symm),
      (List.prefix_append _ _).trans hbegins'⟩
  · exact ⟨c, hreplacement, (List.prefix_append _ _).trans hbegins⟩

/-- Bytes may follow an unfinished character with which another one than the replacement character
is read. -/
theorem Awaits.exists_later {part : List UInt8} {p : Unfinished} (h : Awaits part p) :
    ∃ c, c ≠ replacement ∧ ∃ later, decodeFrom (some (.unfinished p)) later = [c] := by
  obtain ⟨c, hc, later, hencoded⟩ := h.exists_ne_replacement
  have hread := (decodes_decodeFrom later).2 _ _ (.unfinished h)
  have hread' := Decodes.char c .nil
  rw [List.append_nil, ← hencoded] at hread'
  exact ⟨c, hc, later, hread.unique hread'⟩

/-- A byte in the place of the first one of a surrogate is never read as part of a character, so
the decoder is in that state after it. -/
theorem state_of_endsInSurrogate {bytes : List UInt8} (h : EndsInSurrogate bytes) :
    (decodePiece none bytes).1 = some .surrogate := by
  obtain ⟨before, first, second, rfl, hfirst, hsecond⟩ := h
  have hlead : ∀ state : Option PartialChar,
      (∀ p, state = some p → ∃ held, HoldsBack held p) →
        (decodeByte state first).1 = some (.unfinished beforeSurrogates) := by
    intro state hstate
    have hstart : ∀ n, (startAfter n first.toNat).1 = some (.unfinished beforeSurrogates) := by
      intro n
      rw [hfirst]
      rfl
    rcases state with _ | q
    · exact hstart 0
    · obtain ⟨held, hheld⟩ := hstate q rfl
      cases hheld with
      | surrogate => exact hstart 2
      | @unfinished _ q hawaits =>
          have hhigh := hawaits.range.2.2
          have hrange : ¬ (q.low ≤ first.toNat ∧ first.toNat ≤ q.high) := by omega
          have hmakes : makesSurrogate q first.toNat = false := by
            rw [Bool.eq_false_iff, Ne, makesSurrogate_iff]
            omega
          rw [decodeByte_of_outside hrange hmakes]
          exact hstart 1
  have hbefore := hlead (decodePiece none before).1 fun p hp => by
    obtain ⟨-, held, -, hheld⟩ := exists_held before hp
    exact ⟨held, hheld⟩
  have hlast : (decodeByte (some (.unfinished beforeSurrogates)) second).1 = some .surrogate := by
    rw [decodeByte_of_surrogate (by simp only [beforeSurrogates]; omega)
      (makesSurrogate_iff.mpr ⟨rfl, hsecond⟩)]
  rw [decodePiece_append]
  change (decodeByte (decodeByte (decodePiece none before).1 first).1 second).1 = _
  rw [hbefore, hlast]

theorem endsInSurrogate_iff {bytes : List UInt8} :
    EndsInSurrogate bytes ↔ (decodePiece none bytes).1 = some .surrogate := by
  refine ⟨state_of_endsInSurrogate, fun h => ?_⟩
  obtain ⟨before, held, rfl, hheld⟩ := exists_held bytes h
  cases hheld with
  | surrogate cut => exact ⟨before, _, _, rfl, cut⟩

instance (bytes : List UInt8) : Decidable (EndsInSurrogate bytes) :=
  decidable_of_iff _ endsInSurrogate_iff.symm

/-- What is certain but held back: the two replacements for the first bytes of a surrogate. -/
def withheld (bytes : List UInt8) : List Char :=
  if EndsInSurrogate bytes then [replacement, replacement] else []

theorem eq_replacement_of_mem_withheld {bytes : List UInt8} {c : Char}
    (h : c ∈ withheld bytes) : c = replacement := by
  unfold withheld at h
  split_ifs at h <;> simp_all

/-- **What decoding by pieces is.** The text so far, with the two replacements for a surrogate that
is cut off at its end, is all that is certain, whatever comes next. -/
theorem certain_iff {bytes : List UInt8} {text : List Char} :
    Certain bytes text ↔ text <+: decodeSoFar bytes ++ withheld bytes := by
  have hwhole : ∀ later, decodeUtf8 (bytes ++ later) =
      decodeSoFar bytes ++ decodeFrom (decodePiece none bytes).1 later :=
    fun later => decodeFrom_append none bytes later
  have hends : EndsInSurrogate bytes ↔ (decodePiece none bytes).1 = some .surrogate :=
    endsInSurrogate_iff
  unfold withheld
  constructor
  · intro h
    have hend := h [] _ (decodes_decodeUtf8 _)
    rw [hwhole] at hend
    cases hstate : (decodePiece none bytes).1 with
    | none =>
        rw [hstate] at hend hends
        rw [if_neg (by simp [hends])]
        exact hend
    | some p =>
        obtain ⟨-, held, -, hheld⟩ := exists_held bytes hstate
        rw [hstate] at hend hends
        cases hheld with
        | surrogate cut =>
            rw [if_pos (hends.mpr rfl)]
            exact hend
        | @unfinished part p hpart =>
            -- one reading goes on with a replacement and another one does not
            rw [if_neg (by simp [hends]), List.append_nil]
            obtain ⟨c, hc, later, hchar⟩ := hpart.exists_later
            have hlater := h later _ (decodes_decodeUtf8 _)
            rw [hwhole, hstate, hchar] at hlater
            change text <+: decodeSoFar bytes ++ [replacement] at hend
            rcases List.prefix_concat_iff.mp hend with heq | hprefix
            · rw [heq, List.prefix_append_right_inj] at hlater
              simp [hc.symm] at hlater
            · exact hprefix
  · intro h later whole hread
    rw [decodes_iff.mp hread, hwhole]
    refine h.trans ?_
    rw [List.prefix_append_right_inj]
    split_ifs with hcut
    · rw [hends.mp hcut, decodeFrom_surrogate]
      exact List.prefix_append _ _
    · exact List.nil_prefix

example : decodeSoFar [0x41, 0xED, 0xA0] = ['A'] := by decide +kernel
example : withheld [0x41, 0xED, 0xA0] = [replacement, replacement] := by decide +kernel

end PodReach.Text
