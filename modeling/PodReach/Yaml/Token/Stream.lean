import PodReach.Yaml.Scalar.Block
import PodReach.Yaml.Scalar.Plain
import PodReach.Yaml.Scalar.Quoted
import PodReach.Yaml.Token.Name

/-!
# The token stream of a text

A mapping key needs no mark of its own: only the colon after it tells that it was one. So the
scanner remembers for every level of brackets where such a key may have started, and puts the
key token there when the colon comes. A key has to stand on one line and within 1024 characters
of its colon. Outside brackets the columns of the open blocks decide where blocks end.
-/

namespace PodReach.Yaml

/-- A place where a mapping key may have started. It is required to be a key if a block mapping
with this indentation is open. -/
structure PossibleKey where
  /-- The number of tokens in front of it. -/
  place : Nat
  required : Bool
  index : Nat
  line : Nat
  column : Nat
  deriving DecidableEq, Repr, Inhabited

/-- The tokens of a text, up to its end or to a defect. -/
structure TokenStream where
  tokens : List Token
  defect : Option Defect
  deriving DecidableEq, Repr, Inhabited

/-- The state of reading tokens. -/
structure Scanner where
  cursor : Cursor
  tokens : Array Token
  /-- The columns of the open blocks, the innermost first. -/
  blocks : List Nat
  /-- The possible key on the present level of brackets. -/
  key : Option PossibleKey
  /-- The possible keys on the outer levels. -/
  outer : List (Option PossibleKey)
  /-- Whether a key may start here. -/
  keyAllowed : Bool
  deriving Inhabited

namespace Scanner

/-- The start of a text. -/
def start (cs : List Char) : Scanner :=
  ⟨.start cs, #[], [], none, [], true⟩

/-- Whether the place is inside brackets. -/
def inFlow (s : Scanner) : Bool :=
  !s.outer.isEmpty

/-- The least column of the contents of the innermost block. -/
def inner (s : Scanner) : Nat :=
  match s.blocks with
  | [] => 0
  | column :: _ => column + 1

/-- Add a token. -/
def emit (token : Token) (s : Scanner) : Scanner :=
  { s with tokens := s.tokens.push token }

/-- Insert a token in front of the token with a given number. -/
def insert (place : Nat) (token : Token) (s : Scanner) : Scanner :=
  { s with
    tokens := s.tokens.extract 0 place ++ #[token] ++ s.tokens.extract place s.tokens.size }

/-- Open a block at a column that is deeper than the innermost block. -/
def openBlock (column place : Nat) (token : Token) (s : Scanner) : Scanner :=
  if s.blocks.head?.all (· < column) then
    { s.insert place token with blocks := column :: s.blocks }
  else s

/-- Close the innermost blocks whose columns have a property. -/
def closeBlocks (closes : Nat → Bool) (s : Scanner) : Scanner :=
  if s.inFlow then s
  else
    { s with
      tokens := s.tokens ++ ((s.blocks.takeWhile closes).map fun _ => Token.blockEnd).toArray
      blocks := s.blocks.dropWhile closes }

/-- Give up the possible key of this level; a required one was not followed by its colon. -/
def forgetKey (s : Scanner) : Except Defect Scanner :=
  if s.key.any (·.required) then .error .malformed else .ok { s with key := none }

/-- Remember that a key may start here. -/
def rememberKey (s : Scanner) : Except Defect Scanner :=
  if s.keyAllowed then do
    let s ← s.forgetKey
    let required := !s.inFlow && s.blocks.head? == some s.cursor.column
    return { s with
      key := some ⟨s.tokens.size, required, s.cursor.index, s.cursor.line, s.cursor.column⟩ }
  else .ok s

/-- Whether a possible key is too far back for a colon that comes here. -/
def isStale (c : Cursor) (key : PossibleKey) : Bool :=
  key.line != c.line || key.index + 1024 < c.index

/-- Give up the possible keys that are too far back. -/
def forgetStale (s : Scanner) : Except Defect Scanner :=
  let stale := isStale s.cursor
  if (s.key :: s.outer).any (·.any fun key => key.required && stale key) then .error .malformed
  else
    .ok { s with
      key := s.key.filter (!stale ·)
      outer := s.outer.map (·.filter (!stale ·)) }

/-- The next place that is neither a space nor in a comment nor a line break, and whether a line
ended on the way. -/
def pastBlank : Nat → Bool → Cursor → Bool × Cursor
  | 0, ended, c => (ended, c)
  | fuel + 1, ended, c =>
    let c := c.pastSpaces.pastComment
    if startsWith isBreak c.rest then pastBlank fuel true c.next else (ended, c)

/-- Go to the next token. Outside brackets a key may start on a new line. -/
def toNextToken (s : Scanner) : Scanner :=
  let c := s.cursor
  let c := if c.index == 0 && startsWith (· == '\uFEFF') c.rest then c.next else c
  let (ended, c) := pastBlank (c.rest.length + 1) false c
  { s with cursor := c, keyAllowed := s.keyAllowed || (ended && !s.inFlow) }

/-- End a document: all blocks end and no key is open. -/
def endDocument (s : Scanner) : Except Defect Scanner := do
  let s ← (s.closeBlocks fun _ => true).forgetKey
  return { s with keyAllowed := false }

/-- Add a token of one character. -/
def emitChar (token : Token) (s : Scanner) : Scanner :=
  { s.emit token with cursor := s.cursor.next }

/-- Open a level of brackets; its first token may be a key. -/
def openFlow (token : Token) (s : Scanner) : Except Defect Scanner := do
  let s ← s.rememberKey
  return { s.emitChar token with key := none, outer := s.key :: s.outer, keyAllowed := true }

/-- Close a level of brackets. A bracket that was not opened is refused. -/
def closeFlow (token : Token) (s : Scanner) : Except Defect Scanner := do
  let s ← s.forgetKey
  match s.outer with
  | [] => .error .malformed
  | key :: outer => return { s.emitChar token with key := key, outer := outer, keyAllowed := false }

/-- The token that marks an item, a key or a value by itself: outside brackets it has to stand
where a key may start, and it opens a block of its own. -/
def blockMark (opening token : Token) (s : Scanner) : Except Defect Scanner := do
  if s.inFlow then return (← s.forgetKey).emitChar token
  else
    require s.keyAllowed
    let s := s.openBlock s.cursor.column s.tokens.size opening
    return (← s.forgetKey).emitChar token

/-- The token of an item of a block sequence. -/
def blockEntry (s : Scanner) : Except Defect Scanner := do
  return { ← s.blockMark .blockSequenceStart .blockEntry with keyAllowed := true }

/-- The token of an explicit key. -/
def explicitKey (s : Scanner) : Except Defect Scanner := do
  return { ← s.blockMark .blockMappingStart .key with keyAllowed := !s.inFlow }

/-- The colon after a key. If a key may have started on this level, its token is put there. -/
def valueMark (s : Scanner) : Except Defect Scanner :=
  match s.key with
  | some key =>
    let s := { s with key := none }.insert key.place .key
    let s := if s.inFlow then s else s.openBlock key.column key.place .blockMappingStart
    .ok { s.emitChar .value with keyAllowed := false }
  | none => do
    return { ← s.blockMark .blockMappingStart .value with keyAllowed := !s.inFlow }

/-- A token that may be a key: a scalar, an alias, or what stands in front of a node. -/
def keyToken (s : Scanner) (read : Cursor → Except Defect (Token × Cursor)) :
    Except Defect Scanner := do
  let s ← s.rememberKey
  let (token, after) ← read s.cursor
  return { s.emit token with cursor := after, keyAllowed := false }

/-- A plain scalar; if a line ended behind it a key may follow. -/
def plainToken (s : Scanner) : Except Defect Scanner := do
  let s ← s.rememberKey
  let (text, after, ended) := readPlain s.inFlow s.inner s.cursor
  return { s.emit (.scalar text true) with cursor := after, keyAllowed := ended }

/-- A block scalar, after which a key may follow. -/
def blockToken (s : Scanner) : Except Defect Scanner := do
  let s ← s.forgetKey
  let (text, after) ← readBlock s.inner s.cursor
  return { s.emit (.scalar text false) with cursor := after, keyAllowed := true }

/-- The token that starts here with a character. -/
def readToken (first : Char) (more : List Char) (s : Scanner) : Except Defect Scanner :=
  let atMargin := s.cursor.column == 0
  if first == '%' && atMargin then do
    let s ← s.endDocument
    let (token, after) ← readDirective s.cursor
    return { s.emit token with cursor := after }
  else if atMargin && s.cursor.atSeparator then do
    let s ← s.endDocument
    return { s.emit (if first == '-' then .documentStart else .documentEnd) with
      cursor := s.cursor.skip 3 }
  else if first == '[' then s.openFlow .flowSequenceStart
  else if first == '\x7b' then s.openFlow .flowMappingStart
  else if first == ']' then s.closeFlow .flowSequenceEnd
  else if first == '\x7d' then s.closeFlow .flowMappingEnd
  else if first == ',' then do
    return { (← s.forgetKey).emitChar .flowEntry with keyAllowed := true }
  else if first == '-' && atEndOr isGap more then s.blockEntry
  else if first == '?' && (s.inFlow || atEndOr isGap more) then s.explicitKey
  else if first == ':' && (s.inFlow || atEndOr isGap more) then s.valueMark
  else if first == '*' then
    s.keyToken fun c => return (← readAnchorName c.next).map .alias id
  else if first == '&' then
    s.keyToken fun c => return (← readAnchorName c.next).map .anchor id
  else if first == '!' then s.keyToken readTag
  else if (first == '|' || first == '>') && !s.inFlow then s.blockToken
  else if first == '\'' || first == '"' then
    s.keyToken fun c => return (← readQuoted c).map (.scalar · false) id
  else if startsPlain s.inFlow (first :: more) then s.plainToken
  else .error .malformed

/-- The next token, or the end of the text: then nothing is left to read. -/
def step (s : Scanner) : Except Defect (Option Scanner × Array Token) := do
  let s ← s.toNextToken.forgetStale
  let s := s.closeBlocks (s.cursor.column < ·)
  match s.cursor.rest with
  | [] => return (none, (← s.endDocument).tokens)
  | first :: more =>
    let s ← s.readToken first more
    return (some s, s.tokens)

/-- The number of tokens that can be used before more of the text has to be looked at: a token
that may turn out to be a key is not settled before its colon could come. -/
def settled (s : Scanner) : Nat :=
  let possible := (s.key :: s.outer).filterMap (·.filter (!isStale s.cursor ·))
  (possible.map (·.place)).foldl min s.tokens.size

/-- The tokens from here to the end of the text. Every token takes a character, so the bound is
never what stops the reading. A defect ends the tokens where someone who uses them one by one
meets it. -/
def readAll : Nat → Scanner → TokenStream
  | 0, s => ⟨s.tokens.toList, some .malformed⟩
  | fuel + 1, s =>
    match s.step with
    | .error defect => ⟨s.tokens.toList.take s.settled, some defect⟩
    | .ok (none, tokens) => ⟨tokens.toList, none⟩
    | .ok (some next, _) => readAll fuel next

end Scanner

/-- The tokens of a text. A text with characters that are not allowed has none. -/
def tokensOf (text : String) : TokenStream :=
  let cs := unifyBreaks text.toList
  if cs.all isAllowed then Scanner.readAll (cs.length + 1) (.start cs) else ⟨[], some .malformed⟩

end PodReach.Yaml
