/-!
# Incremental UTF-8 with replacement

Bytes arrive in pieces that may end inside a character. The decoder is a machine that takes
one byte at a time; its state is what it still holds back. Each maximal run of bytes
that begins a character but cannot continue becomes one U+FFFD, so the text does not depend
on where the pieces were cut.

An unfinished character is held back, since the bytes to come decide about it. So are the first
two bytes of an encoded surrogate, though nothing can make a character of them any more: each of
them is replaced once another byte has come or the input has ended.
-/

namespace PodReach.Text

/-- An unfinished character: its leading bits, how many bytes are missing, and the range that
the next byte has to lie in. -/
structure Unfinished where
  bits : Nat
  missing : Nat
  low : Nat
  high : Nat
  deriving DecidableEq, Repr

/-- What is held back of the bytes read so far. -/
inductive PartialChar
  | unfinished (char : Unfinished)
  /-- The first two bytes of a surrogate. -/
  | surrogate
  deriving DecidableEq, Repr

/-- The character shown for bytes that are no UTF-8. -/
def replacement : Char := '\uFFFD'

/-- The first byte of a character in the block that the surrogates belong to. -/
def beforeSurrogates : Unfinished := ⟨0xD, 2, 0x80, 0x9F⟩

/-- Whether a byte after the first one makes a surrogate of an unfinished character. -/
def makesSurrogate (p : Unfinished) (byte : Nat) : Bool :=
  p == beforeSurrogates && 0xA0 ≤ byte && byte ≤ 0xBF

/-- What one byte does when nothing is held back. The range of the second byte excludes
overlong forms, surrogates and code points above U+10FFFF. -/
def startChar (byte : Nat) : Option Unfinished × List Char :=
  if byte < 0x80 then (none, [Char.ofNat byte])
  else if 0xC2 ≤ byte && byte ≤ 0xDF then (some ⟨byte - 0xC0, 1, 0x80, 0xBF⟩, [])
  else if byte == 0xE0 then (some ⟨0, 2, 0xA0, 0xBF⟩, [])
  else if byte == 0xED then (some beforeSurrogates, [])
  else if 0xE1 ≤ byte && byte ≤ 0xEF then (some ⟨byte - 0xE0, 2, 0x80, 0xBF⟩, [])
  else if byte == 0xF0 then (some ⟨0, 3, 0x90, 0xBF⟩, [])
  else if 0xF1 ≤ byte && byte ≤ 0xF3 then (some ⟨byte - 0xF0, 3, 0x80, 0xBF⟩, [])
  else if byte == 0xF4 then (some ⟨4, 3, 0x80, 0x8F⟩, [])
  else (none, [replacement])

/-- One byte after the first `spoiled` ones were found to be no character: they are replaced, and
the byte is read on its own. -/
def startAfter (spoiled : Nat) (byte : Nat) : Option PartialChar × List Char :=
  ((startChar byte).1.map .unfinished,
    List.replicate spoiled replacement ++ (startChar byte).2)

/-- One byte: the new state and the characters that are now certain. A byte that cannot
continue an unfinished character replaces it and is then read on its own, unless the two of them
begin a surrogate. -/
def decodeByte (state : Option PartialChar) (byte : UInt8) : Option PartialChar × List Char :=
  let b := byte.toNat
  match state with
  | none => startAfter 0 b
  | some .surrogate => startAfter 2 b
  | some (.unfinished p) =>
    if p.low ≤ b && b ≤ p.high then
      let bits := p.bits * 64 + (b - 0x80)
      if p.missing ≤ 1 then (none, [Char.ofNat bits])
      else (some (.unfinished ⟨bits, p.missing - 1, 0x80, 0xBF⟩), [])
    else if makesSurrogate p b then (some .surrogate, [])
    else startAfter 1 b

/-- A piece of the input: the characters completed by it. -/
def decodePiece (state : Option PartialChar) : List UInt8 → Option PartialChar × List Char
  | [] => (state, [])
  | byte :: rest =>
    let (state', out) := decodeByte state byte
    let (final, more) := decodePiece state' rest
    (final, out ++ more)

/-- The characters that the end of the input adds: what is held back is replaced. -/
def decodeEnd : Option PartialChar → List Char
  | none => []
  | some (.unfinished _) => [replacement]
  | some .surrogate => [replacement, replacement]

/-- The text of a complete input. -/
def decodeUtf8 (bytes : List UInt8) : List Char :=
  let (state, out) := decodePiece none bytes
  out ++ decodeEnd state

/-- The characters that bytes encode, if all of them do. -/
def decodeStrictly? (bytes : List UInt8) : Option (List Char) :=
  let decoded := decodeUtf8 bytes
  if (String.ofList decoded).toUTF8.toList == bytes then some decoded else none

/-- Cutting a piece in two changes nothing. -/
theorem decodePiece_append (state : Option PartialChar) (xs ys : List UInt8) :
    decodePiece state (xs ++ ys) =
      ((decodePiece (decodePiece state xs).1 ys).1,
        (decodePiece state xs).2 ++ (decodePiece (decodePiece state xs).1 ys).2) := by
  induction xs generalizing state with
  | nil => simp [decodePiece]
  | cons byte rest ih => simp [decodePiece, ih, List.append_assoc]

example : decodeUtf8 [0xE4, 0xBD, 0xA0] = ['你'] := by decide +kernel
example : decodeUtf8 [0xE4, 0xBD, 0x41] = [replacement, 'A'] := by decide +kernel
example : decodeUtf8 [0xED, 0xA0, 0x80] = [replacement, replacement, replacement] := by
  decide +kernel
example : decodePiece none [0xED, 0xA0] = (some .surrogate, []) := by decide +kernel

end PodReach.Text
