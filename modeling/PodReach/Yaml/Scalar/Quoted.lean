import PodReach.Text.Surrogate
import PodReach.Yaml.Cursor

/-!
# Quoted scalars

Between single quotes only the quote itself is written specially, as two quotes; between double
quotes a backslash starts an escape. Lines are folded in both: the spaces around a break are
dropped. The bounds on the recursion come from the length of the text, of which every step
consumes a character.
-/

namespace PodReach.Yaml

/-- The empty lines after a break, and the place of the first character after them. A line of
three dashes or dots may not stand inside a quoted scalar. -/
def emptyLines : Nat → Cursor → Except Defect (List Char × Cursor)
  | 0, _ => .error .malformed
  | fuel + 1, c =>
    if c.atSeparator then .error .malformed
    else
      let c := (c.run isSpace).2
      match c.rest with
      | ch :: _ =>
        if isBreak ch then do
          let (more, after) ← emptyLines fuel c.next
          return (breakText ch :: more, after)
        else return ([], c)
      | [] => return ([], c)

/-- The escapes that stand for one character. -/
def shortEscapes : List (Char × Char) := [
  ('0', '\x00'), ('a', '\x07'), ('b', '\x08'), ('t', '\t'), ('\t', '\t'), ('n', '\n'),
  ('v', '\x0b'), ('f', '\x0c'), ('r', '\r'), ('e', '\x1b'), (' ', ' '), ('"', '"'),
  ('\\', '\\'), ('/', '/'), ('N', '\x85'), ('_', '\xa0'), ('L', '\u2028'), ('P', '\u2029')]

/-- The escapes that are followed by the code of a character, with its number of digits. -/
def codeEscapes : List (Char × Nat) := [('x', 2), ('u', 4), ('U', 8)]

/-- The number that hexadecimal digits denote. -/
def hexValue? (digits : List Char) : Option Nat :=
  digits.foldlM (fun n c => do
    let d ← Text.letterDigit? c
    if d < 16 then some (16 * n + d) else none) 0

/-- The character with a code, which may be that of half of a surrogate pair. -/
def charOfCode (code : Nat) : Except Defect Char :=
  if 0x7FFFFFFF < code then .error (.mistake .overflow)
  else if 0x10FFFF < code then .error (.mistake .badValue)
  else .ok (Text.charOfUnit code)

/-- What follows the backslash of an escape: the characters it stands for. -/
def readEscape (fuel : Nat) (c : Cursor) : Except Defect (List Char × Cursor) :=
  match c.rest with
  | [] => .error .malformed
  | e :: more =>
    match shortEscapes.lookup e with
    | some ch => .ok ([ch], c.next)
    | none =>
      match codeEscapes.lookup e with
      | some width =>
        let digits := more.take width
        if digits.length < width then .error .malformed
        else
          match hexValue? digits with
          | some code => do return ([← charOfCode code], c.skip (width + 1))
          | none => .error .malformed
      | none => if isBreak e then emptyLines fuel c.next else .error .malformed

/-- The spaces and breaks between two words of a quoted scalar. -/
def quotedGap (fuel : Nat) (c : Cursor) : Except Defect (List Char × Cursor) :=
  let (spaces, after) := c.run isSpace
  match after.rest with
  | [] => .error .malformed
  | ch :: _ =>
    if isBreak ch then do
      let (lines, after) ← emptyLines fuel after.next
      return (foldedBreak ch lines, after)
    else .ok (spaces, after)

/-- The text of a quoted scalar after its opening quote, and the place after the closing one. -/
def quotedText (double : Bool) : Nat → Cursor → Except Defect (List Char × Cursor)
  | 0, _ => .error .malformed
  | fuel + 1, c => do
    let onward (piece : List Char) (after : Cursor) : Except Defect (List Char × Cursor) := do
      let (more, finish) ← quotedText double fuel after
      return (piece ++ more, finish)
    match c.rest with
    | [] => .error .malformed
    | ch :: more =>
      if isGap ch then
        let (piece, after) ← quotedGap fuel c
        onward piece after
      else if double then
        if ch == '"' then return ([], c.next)
        else if ch == '\\' then
          let (piece, after) ← readEscape fuel c.next
          onward piece after
        else onward [ch] c.next
      else if ch == '\'' then
        if startsWith (· == '\'') more then onward [ch] (c.skip 2) else return ([], c.next)
      else onward [ch] c.next

/-- The quoted scalar that starts here, at its quote. -/
def readQuoted (c : Cursor) : Except Defect (String × Cursor) := do
  let (text, after) ← quotedText (startsWith (· == '"') c.rest) (c.rest.length + 1) c.next
  return (String.ofList text, after)

end PodReach.Yaml
