import PodReach.Yaml.Cursor

/-!
# Block scalars

A scalar written on the lines below its indicator. The header says whether the lines are folded,
what becomes of the breaks at the end, and it may give the indentation; without that the first
line with text sets it.
-/

namespace PodReach.Yaml

/-- What becomes of the breaks at the end of a block scalar. -/
inductive Chomping
  | strip
  | clip
  | keep
  deriving DecidableEq, Repr, Inhabited

/-- The chomping indicator at the start of a text. -/
def chomping? : List Char → Option Chomping
  | '+' :: _ => some .keep
  | '-' :: _ => some .strip
  | _ => none

/-- The indentation indicator at the start of a text: a digit, of which zero is refused. -/
def indentation? (cs : List Char) : Except Defect (Option Nat) :=
  match cs with
  | [] => .ok none
  | c :: _ =>
    if !Text.isAsciiDigit c then .ok none
    else if c == '0' then .error .malformed
    else .ok (some (c.toNat - 48))

/-- The header after the indicator: chomping and indentation in either order, then nothing but
spaces and a comment. -/
def readBlockHeader (c : Cursor) : Except Defect (Chomping × Option Nat × Cursor) := do
  let (chomping, indentation, c) ← match chomping? c.rest with
    | some chomping => do
      match ← indentation? c.next.rest with
      | some n => pure (chomping, some n, c.skip 2)
      | none => pure (chomping, none, c.next)
    | none => do
      match ← indentation? c.rest with
      | some n =>
        match chomping? c.next.rest with
        | some chomping => pure (chomping, some n, c.skip 2)
        | none => pure (Chomping.clip, some n, c.next)
      | none => pure (Chomping.clip, none, c)
  if !atEndOr (fun ch => ch == ' ' || isBreak ch) c.rest then .error .malformed
  else return (chomping, indentation, ← c.pastLineEnd)

/-- The empty lines at the start of a block scalar without a given indentation, and the deepest
column that they or the first line with text reach. -/
def leadingLines : Nat → Nat → Cursor → List Char × Nat × Cursor
  | 0, deepest, c => ([], deepest, c)
  | fuel + 1, deepest, c =>
    let c := c.pastSpaces
    let deepest := max deepest c.column
    match c.rest with
    | ch :: _ =>
      if isBreak ch then
        let (more, deepest, after) := leadingLines fuel deepest c.next
        (breakText ch :: more, deepest, after)
      else ([], deepest, c)
    | [] => ([], deepest, c)

/-- The empty lines in front of a line of a block scalar with a known indentation. -/
def blockLines (indent : Nat) : Nat → Cursor → List Char × Cursor
  | 0, c => ([], c)
  | fuel + 1, c =>
    let c := c.indentTo indent
    match c.rest with
    | ch :: _ =>
      if isBreak ch then
        let (more, after) := blockLines indent fuel c.next
        (breakText ch :: more, after)
      else ([], c)
    | [] => ([], c)

/-- The text of the lines of a block scalar from the line that starts here on. A folded break
between two lines that start with text becomes a space, or nothing before empty lines. -/
def blockText (folded : Bool) (chomping : Chomping) (indent : Nat) :
    Nat → Cursor → List Char × Cursor
  | 0, c => ([], c)
  | fuel + 1, c =>
    let (line, atEnd) := c.run fun ch => !isBreak ch
    let lineBreak := (atEnd.rest.take 1).map breakText
    let (lines, after) := blockLines indent fuel atEnd.next
    if after.column == indent && !after.rest.isEmpty then
      let joined :=
        if folded && lineBreak == ['\n'] && !startsWith isSpace c.rest
            && !startsWith isSpace after.rest then
          if lines.isEmpty then [' '] else []
        else lineBreak
      let (more, finish) := blockText folded chomping indent fuel after
      (line ++ joined ++ lines ++ more, finish)
    else
      let ending := match chomping with
        | .strip => []
        | .clip => lineBreak
        | .keep => lineBreak ++ lines
      (line ++ ending, after)

/-- The block scalar that starts here, at its indicator, inside a block whose contents are
indented by at least `indent`. -/
def readBlock (indent : Nat) (c : Cursor) : Except Defect (String × Cursor) := do
  let folded := startsWith (· == '>') c.rest
  let (chomping, indentation, c) ← readBlockHeader c.next
  let fuel := c.rest.length + 1
  let least := max 1 indent
  let (lines, indent, c) := match indentation with
    | some n =>
      let indent := least + n - 1
      let (lines, after) := blockLines indent fuel c
      (lines, indent, after)
    | none =>
      let (lines, deepest, after) := leadingLines fuel 0 c
      (lines, max least deepest, after)
  if c.column == indent && !c.rest.isEmpty then
    let (text, after) := blockText folded chomping indent fuel c
    return (String.ofList (lines ++ text), after)
  else
    return (String.ofList (if chomping == .keep then lines else []), c)

end PodReach.Yaml
