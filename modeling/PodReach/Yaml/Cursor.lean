import PodReach.Text.Digit
import PodReach.Yaml.Defect

/-!
# A place in a YAML text

What remains of the text together with its line and column. YAML has four line breaks; inside a
scalar two of them stand for themselves and the others for a newline.
-/

namespace PodReach

namespace Yaml

/-- The characters that end a line. -/
def isBreak (c : Char) : Bool :=
  c == '\n' || c == '\x85' || c == '\u2028' || c == '\u2029'

/-- What a line break stands for inside a scalar. -/
def breakText (c : Char) : Char :=
  if c == '\x85' then '\n' else c

/-- A space or a tab. -/
def isSpace (c : Char) : Bool :=
  c == ' ' || c == '\t'

/-- The characters that separate tokens. -/
def isGap (c : Char) : Bool :=
  isSpace c || isBreak c

/-- Whether the rest of a text starts with a character of a class, or is empty. -/
def atEndOr (p : Char → Bool) : List Char → Bool
  | [] => true
  | c :: _ => p c

/-- Whether the rest of a text starts with a character of a class. -/
def startsWith (p : Char → Bool) : List Char → Bool
  | [] => false
  | c :: _ => p c

/-- The characters that may stand in a YAML text. -/
def isAllowed (c : Char) : Bool :=
  let n := c.toNat
  n == 0x9 || n == 0xA || n == 0xD || n == 0x85 || (0x20 ≤ n && n ≤ 0x7E)
    || (0xA0 ≤ n && n ≤ 0xD7FF) || (0xE000 ≤ n && n ≤ 0xFFFD) || 0x10000 ≤ n

/-- Write every carriage return, alone or before a newline, as one newline. -/
def unifyBreaks : List Char → List Char
  | '\r' :: '\n' :: rest => '\n' :: unifyBreaks rest
  | c :: rest => (if c == '\r' then '\n' else c) :: unifyBreaks rest
  | [] => []

/-- The text of a folded line break: a single newline becomes a space, one before empty lines
is dropped, and a break that stands for itself stays. -/
def foldedBreak (first : Char) (emptyLines : List Char) : List Char :=
  if breakText first != '\n' then breakText first :: emptyLines
  else if emptyLines.isEmpty then [' ']
  else emptyLines

/-- A place in a text. -/
structure Cursor where
  rest : List Char
  index : Nat
  line : Nat
  column : Nat
  deriving DecidableEq, Repr, Inhabited

namespace Cursor

/-- The start of a text. -/
def start (cs : List Char) : Cursor :=
  ⟨cs, 0, 0, 0⟩

/-- The place one character on. A byte order mark takes no column. -/
def next (c : Cursor) : Cursor :=
  match c.rest with
  | [] => c
  | ch :: more =>
    if isBreak ch then ⟨more, c.index + 1, c.line + 1, 0⟩
    else ⟨more, c.index + 1, c.line, if ch == '\uFEFF' then c.column else c.column + 1⟩

/-- The place a number of characters on. -/
def skip : Nat → Cursor → Cursor
  | 0, c => c
  | n + 1, c => skip n c.next

/-- The longest run of characters of a class, and the place after it. -/
def run (p : Char → Bool) (c : Cursor) : List Char × Cursor :=
  let taken := c.rest.takeWhile p
  (taken, c.skip taken.length)

/-- The place after the spaces. -/
def pastSpaces (c : Cursor) : Cursor :=
  (c.run (· == ' ')).2

/-- The place after a comment, if one starts here. -/
def pastComment (c : Cursor) : Cursor :=
  if startsWith (· == '#') c.rest then (c.run fun ch => !isBreak ch).2 else c

/-- Whether three dashes or three dots stand here by themselves. -/
def atSeparator (c : Cursor) : Bool :=
  match c.rest with
  | x :: y :: z :: rest =>
    (x == '-' || x == '.') && y == x && z == x && atEndOr isGap rest
  | _ => false

/-- The place after the rest of a line that holds nothing more but spaces and a comment. -/
def pastLineEnd (c : Cursor) : Except Defect Cursor :=
  let c := c.pastSpaces.pastComment
  if atEndOr isBreak c.rest then .ok c.next else .error .malformed

/-- Skip spaces while the column is below a bound. -/
def indentTo (column : Nat) (c : Cursor) : Cursor :=
  c.skip ((c.rest.takeWhile (· == ' ')).take (column - c.column)).length

end Cursor
end Yaml
end PodReach
