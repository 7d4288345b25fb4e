/-!
# Halves of surrogate pairs

An escape can name half of a surrogate pair by itself. No character has that code, so such a half
is kept as the private character with the same digits in the last plane: texts with different
halves stay different, and a written text shows the code of the half.
-/

namespace PodReach.Text

/-- The first code of a surrogate. -/
def firstSurrogate : Nat := 0xD800

/-- The number of surrogates. -/
def surrogateCount : Nat := 0x800

/-- The first code of the characters that stand for surrogates. -/
def firstStandIn : Nat := 0x10D800

/-- Whether a code is that of a surrogate. -/
def isSurrogate (code : Nat) : Bool :=
  firstSurrogate ≤ code && code < firstSurrogate + surrogateCount

/-- The character for a code, of a surrogate too. -/
def charOfUnit (code : Nat) : Char :=
  Char.ofNat (if isSurrogate code then firstStandIn + (code - firstSurrogate) else code)

/-- Whether a character stands for a surrogate. -/
def isStandIn (c : Char) : Bool :=
  firstStandIn ≤ c.toNat && c.toNat < firstStandIn + surrogateCount

/-- The code that a character stands for: that of a surrogate, or its own. -/
def unitOfChar (c : Char) : Nat :=
  if isStandIn c then firstSurrogate + (c.toNat - firstStandIn) else c.toNat

/-- Whether a text has an encoding: it holds no half of a surrogate pair. -/
def isEncodable (s : String) : Bool :=
  s.toList.all (!isStandIn ·)

/-- The bounds of a surrogate. -/
theorem bounds_of_isSurrogate {code : Nat} (h : isSurrogate code) :
    firstSurrogate ≤ code ∧ code < firstSurrogate + surrogateCount := by
  simpa only [isSurrogate, Bool.and_eq_true, decide_eq_true_eq] using h

/-- The code of the character that stands for a surrogate. -/
theorem toNat_charOfUnit {code : Nat} (h : isSurrogate code) :
    (charOfUnit code).toNat = firstStandIn + (code - firstSurrogate) := by
  have bounds := bounds_of_isSurrogate h
  have valid : (firstStandIn + (code - firstSurrogate)).isValidChar := by
    simp only [firstStandIn, firstSurrogate, surrogateCount, Nat.isValidChar] at *
    omega
  rw [charOfUnit, if_pos h, Char.ofNat, dif_pos valid]
  rfl

/-- What a surrogate is kept as stands for a surrogate. -/
theorem isStandIn_charOfUnit {code : Nat} (h : isSurrogate code) : isStandIn (charOfUnit code) := by
  have bounds := bounds_of_isSurrogate h
  simp only [isStandIn, toNat_charOfUnit h, Bool.and_eq_true, decide_eq_true_eq]
  omega

/-- A surrogate can be told from the character that stands for it. -/
theorem unitOfChar_charOfUnit {code : Nat} (h : isSurrogate code) :
    unitOfChar (charOfUnit code) = code := by
  have bounds := bounds_of_isSurrogate h
  rw [unitOfChar, if_pos (isStandIn_charOfUnit h), toNat_charOfUnit h]
  omega

/-- A text with half of a surrogate pair has no encoding. -/
theorem not_isEncodable_charOfUnit {code : Nat} (h : isSurrogate code) :
    isEncodable (String.ofList [charOfUnit code]) = false := by
  simp [isEncodable, isStandIn_charOfUnit h]

end PodReach.Text
