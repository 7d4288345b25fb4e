/-!
# Mistakes

The ways in which a value can have the wrong shape for what is done with it.
-/

namespace PodReach

/-- How a value can have the wrong shape. -/
inductive Mistake
  /-- A part was asked of something that has no parts. -/
  | noSuchPart
  /-- An entry was asked for that a mapping does not have. -/
  | noSuchKey
  /-- A place was asked for that a text does not have. -/
  | noSuchPlace
  /-- A text that should be a number is none, or a list of pairs is none. -/
  | badValue
  /-- A value of the wrong kind was compared, joined or converted. -/
  | wrongKind
  /-- A number too large for the type it is converted to. -/
  | overflow
  deriving DecidableEq, Repr, Inhabited

end PodReach
