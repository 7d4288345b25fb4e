import PodReach.Yaml.Cursor

/-!
# Plain scalars

A scalar without quotes ends before `: `, before ` #`, at the end of a less indented line and,
inside brackets, at a bracket, a comma or a question mark. Its lines are folded.
-/

namespace PodReach.Yaml

/-- The characters that cannot start a plain scalar. -/
def indicators : List Char :=
  ['-', '?', ':', ',', '[', ']', '\x7b', '\x7d', '#', '&', '*', '!', '|', '>', '\'', '"', '%',
    '@', '\x60']

/-- The characters that end a plain scalar inside brackets. -/
def isFlowIndicator (c : Char) : Bool :=
  [',', '?', '[', ']', '\x7b', '\x7d'].contains c

/-- The characters before which a colon ends a plain scalar inside brackets. -/
def isFlowEnd (c : Char) : Bool :=
  [',', '[', ']', '\x7b', '\x7d'].contains c

/-- Whether a plain scalar starts with this text. -/
def startsPlain (flow : Bool) : List Char → Bool
  | [] => false
  | c :: rest =>
    !(isGap c || indicators.contains c)
      || (!atEndOr isGap rest && (c == '-' || (!flow && (c == '?' || c == ':'))))

/-- The word of a plain scalar at the start of a text. -/
def plainWord (flow : Bool) : List Char → List Char
  | [] => []
  | c :: rest =>
    if isGap c then []
    else if c == ':' && (atEndOr isGap rest || (flow && startsWith isFlowEnd rest)) then []
    else if flow && isFlowIndicator c then []
    else c :: plainWord flow rest

/-- The empty lines after a break inside a plain scalar; nothing if a document ends there. -/
def plainLines : Nat → Cursor → Option (List Char × Cursor)
  | 0, _ => none
  | fuel + 1, c =>
    if c.atSeparator then none
    else
      let c := c.pastSpaces
      match c.rest with
      | ch :: _ =>
        if isBreak ch then
          (plainLines fuel c.next).map fun (more, after) => (breakText ch :: more, after)
        else some ([], c)
      | [] => some ([], c)

/-- What separates a word from what follows it, where that is, and whether a line ended. -/
def plainGap (c : Cursor) : Option (List Char) × Cursor × Bool :=
  let (spaces, after) := c.run (· == ' ')
  match after.rest with
  | ch :: _ =>
    if isBreak ch then
      match plainLines (after.rest.length + 1) after.next with
      | some (lines, finish) => (some (foldedBreak ch lines), finish, true)
      | none => (none, after.next, true)
    else (some spaces, after, false)
  | [] => (some spaces, after, false)

/-- The words of a plain scalar from here on, in a block indented by at least `indent`. The last
part of the result says whether the scalar ended after a line break. -/
def plainText (flow : Bool) (indent : Nat) : Nat → Cursor → List Char × Cursor × Bool
  | 0, c => ([], c, false)
  | fuel + 1, c =>
    let word := plainWord flow c.rest
    let (gap, after, broken) := plainGap (c.skip word.length)
    match gap with
    | some (s :: spaces) =>
      if startsWith (· == '#') after.rest || (!flow && after.column < indent)
          || (plainWord flow after.rest).isEmpty then
        (word, after, broken)
      else
        let (more, finish, ended) := plainText flow indent fuel after
        (word ++ s :: spaces ++ more, finish, ended)
    | _ => (word, after, broken)

/-- The plain scalar that starts here, the place after it, and whether a line ended there. -/
def readPlain (flow : Bool) (indent : Nat) (c : Cursor) : String × Cursor × Bool :=
  let (text, after, broken) := plainText flow indent (c.rest.length + 1) c
  (String.ofList text, after, broken)

end PodReach.Yaml
