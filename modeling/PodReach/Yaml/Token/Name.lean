import PodReach.Text.Utf8
import PodReach.Yaml.Token

/-!
# Anchors, aliases, tags and directives

The tokens that consist of an indicator and a name.
-/

namespace PodReach.Yaml

/-- The characters of an anchor, of a tag handle and of a directive. -/
def isNameChar (c : Char) : Bool :=
  c.isAlphanum || c == '-' || c == '_'

/-- The characters of a tag, the percent sign of escapes apart. -/
def isTagChar (c : Char) : Bool :=
  isNameChar c || ";/?:@&=+$,.!~*'()[]".toList.contains c

/-- What may follow a word in a directive or a tag: a space, or the end of the line. -/
def atWordEnd (cs : List Char) : Bool :=
  atEndOr (fun c => c == ' ' || isBreak c) cs

/-- Demand that a property holds. -/
def require (ok : Bool) : Except Defect Unit :=
  if ok then .ok () else .error .malformed

/-- The name of an anchor or an alias, after its indicator. -/
def readAnchorName (c : Cursor) : Except Defect (String × Cursor) := do
  let (name, after) := c.run isNameChar
  require (!name.isEmpty)
  require (atEndOr (fun ch => isGap ch || "?:,]\x7d%@\x60".toList.contains ch) after.rest)
  return (String.ofList name, after)

/-- The bytes of the escapes at the start of a text, and what follows them. -/
def escapedBytes : List Char → Except Defect (List UInt8 × Nat)
  | '%' :: a :: b :: rest => do
    match (Text.letterDigit? a).filter (· < 16), (Text.letterDigit? b).filter (· < 16) with
    | some high, some low =>
      let (bytes, n) ← escapedBytes rest
      return (UInt8.ofNat (16 * high + low) :: bytes, n + 3)
    | _, _ => .error .malformed
  | '%' :: _ => .error .malformed
  | _ => .ok ([], 0)

/-- The characters of a tag from here on, with escapes resolved. -/
def tagText : Nat → Cursor → Except Defect (List Char × Cursor)
  | 0, c => .ok ([], c)
  | fuel + 1, c => do
    let (taken, after) := c.run isTagChar
    if startsWith (· == '%') after.rest then
      let (bytes, n) ← escapedBytes after.rest
      let some decoded := Text.decodeStrictly? bytes | throw .malformed
      let (more, finish) ← tagText fuel (after.skip n)
      return (taken ++ decoded ++ more, finish)
    else return (taken, after)

/-- The characters of a tag, of which there has to be one. -/
def readTagText (c : Cursor) : Except Defect (String × Cursor) := do
  let (text, after) ← tagText (c.rest.length + 1) c
  require (!text.isEmpty)
  return (String.ofList text, after)

/-- A tag handle, from its exclamation mark to the next one; a mark before a space stands alone. -/
def readHandle (c : Cursor) : Except Defect (String × Cursor) := do
  require (startsWith (· == '!') c.rest)
  let (name, after) := c.next.run isNameChar
  if name.isEmpty && startsWith (· == ' ') after.rest then return ("!", after)
  else
    require (startsWith (· == '!') after.rest)
    return (String.ofList ('!' :: name ++ ['!']), after.next)

/-- The tag that starts here, at its exclamation mark. -/
def readTag (c : Cursor) : Except Defect (Token × Cursor) := do
  let (token, after) ←
    if startsWith (· == '<') c.next.rest then do
      let (suffix, after) ← readTagText (c.skip 2)
      require (startsWith (· == '>') after.rest)
      pure (Token.tag none suffix, after.next)
    else if atEndOr isGap c.next.rest then pure (Token.tag none "!", c.next)
    else if (c.next.rest.takeWhile fun ch => !(ch == ' ' || isBreak ch)).contains '!' then do
      let (handle, after) ← readHandle c
      let (suffix, after) ← readTagText after
      pure (Token.tag (some handle) suffix, after)
    else do
      let (suffix, after) ← readTagText c.next
      pure (Token.tag (some "!") suffix, after)
  require (atWordEnd after.rest)
  return (token, after)

/-- A number of a version. -/
def readVersionPart (c : Cursor) : Except Defect (Nat × Cursor) := do
  let (digits, after) := c.run Text.isAsciiDigit
  require (!digits.isEmpty)
  return (Text.decimalOf digits, after)

/-- The directive that starts here, at its percent sign, up to the end of its line. -/
def readDirective (c : Cursor) : Except Defect (Token × Cursor) := do
  let (name, after) := c.next.run isNameChar
  require (!name.isEmpty && atWordEnd after.rest)
  let (token, after) ←
    if name == "YAML".toList then do
      let (major, after) ← readVersionPart after.pastSpaces
      require (startsWith (· == '.') after.rest)
      let (_, after) ← readVersionPart after.next
      require (atWordEnd after.rest)
      pure (Token.version major, after)
    else if name == "TAG".toList then do
      let (handle, after) ← readHandle after.pastSpaces
      require (startsWith (· == ' ') after.rest)
      let (meaning, after) ← readTagText after.pastSpaces
      require (atWordEnd after.rest)
      pure (Token.handle handle meaning, after)
    else pure (Token.directive, (after.run fun ch => !isBreak ch).2)
  return (token, ← after.pastLineEnd)

end PodReach.Yaml
