import PodReach.Yaml.Kind

/-!
# Writing YAML

A mapping is written in block style: one entry a line, in the order of its keys, nested
collections on the lines below. A text is written plainly if it reads back as that text, between
single quotes if it needs no escape, and otherwise between double quotes with every character
outside ASCII escaped. Lines are folded at spaces once they are over 80 columns wide.
-/

namespace PodReach.Yaml

/-- The width after which a line is folded at the next space. -/
def pageWidth : Nat := 80

/-- The number of columns by which nested lines are indented. -/
def indentStep : Nat := 2

/-- A new line with its indentation. -/
def newLine (indent : Nat) : List Char :=
  '\n' :: List.replicate indent ' '

/-- The characters that stand for themselves between quotes of either kind. -/
def isPlainAscii (c : Char) : Bool :=
  0x20 ≤ c.toNat && c.toNat ≤ 0x7E

/-- The characters that cannot start a scalar without quotes. -/
def leadingIndicators : List Char :=
  ['#', ',', '[', ']', '\x7b', '\x7d', '&', '*', '!', '|', '>', '\'', '"', '%', '@', '\x60']

/-- Whether two characters follow each other somewhere. -/
def followed (first second : Char) (cs : List Char) : Bool :=
  (cs.zip cs.tail).contains (first, second)

/-- Whether a text needs no quotes as far as its characters go. -/
def fitsPlain (cs : List Char) : Bool :=
  match cs with
  | [] => false
  | first :: rest =>
    cs.all isPlainAscii && first != ' ' && cs.getLast? != some ' '
      && !leadingIndicators.contains first
      && !(['-', '?'].contains first && (rest.isEmpty || startsWith (· == ' ') rest))
      && !(['-', '.'].contains first && cs.take 3 == List.replicate 3 first)
      && cs.getLast? != some ':' && !followed ':' ' ' cs && !followed ' ' '#' cs

/-- Whether a text can stand between single quotes. -/
def fitsSingle (cs : List Char) : Bool :=
  cs.all (fun c => c == '\n' || isPlainAscii c) && !followed '\n' ' ' cs && !followed ' ' '\n' cs

/-- Runs of spaces, of newlines and of other characters. -/
def runsOf (cs : List Char) : List (List Char) :=
  let sort (c : Char) : Nat := if c == ' ' then 0 else if c == '\n' then 1 else 2
  cs.splitBy fun a b => sort a == sort b

/-- Write runs of characters from a column on. A single space between two runs becomes a fold if
the line is too wide, and newlines are written with one empty line more. -/
def foldRuns (folds : Bool) (indent : Nat) (write : List Char → List Char) :
    (first : Bool) → (column : Nat) → List (List Char) → List Char
  | _, _, [] => []
  | first, column, piece :: rest =>
    if startsWith (· == '\n') piece then
      '\n' :: piece ++ List.replicate indent ' ' ++ foldRuns folds indent write false indent rest
    else if folds && piece == [' '] && pageWidth < column && !first && !rest.isEmpty then
      newLine indent ++ foldRuns folds indent write false indent rest
    else
      let written := write piece
      written ++ foldRuns folds indent write false (column + written.length) rest

/-- Write a quote inside single quotes twice. -/
def doubleQuotes (cs : List Char) : List Char :=
  cs.flatMap fun c => if c == '\'' then ['\'', '\''] else [c]

/-- The characters with a short escape. -/
def writtenEscapes : List (Char × Char) := [
  ('\x00', '0'), ('\x07', 'a'), ('\x08', 'b'), ('\t', 't'), ('\n', 'n'), ('\x0b', 'v'),
  ('\x0c', 'f'), ('\r', 'r'), ('\x1b', 'e'), ('"', '"'), ('\\', '\\'), ('\x85', 'N'),
  ('\xa0', '_'), ('\u2028', 'L'), ('\u2029', 'P')]

/-- The escape of a character between double quotes, if it needs one. -/
def escapeOf? (c : Char) : Option (List Char) :=
  let unit := Text.unitOfChar c
  let code (width : Nat) (mark : Char) : List Char :=
    '\\' :: mark :: (Text.hexDigits width unit).map Char.toUpper
  match writtenEscapes.lookup c with
  | some mark => some ['\\', mark]
  | none =>
    if isPlainAscii c then none
    else if unit ≤ 0xFF then some (code 2 'x')
    else if unit ≤ 0xFFFF then some (code 4 'u')
    else some (code 8 'U')

/-- Write a text between double quotes from a column on. A line that is too wide is broken, with
a backslash, in front of a space or behind an escape; `fresh` says that the last character was
escaped, and `first` that there was none yet. -/
def escapeRuns (folds : Bool) (indent : Nat) :
    (first fresh : Bool) → (column : Nat) → List Char → List Char
  | _, _, _, [] => []
  | first, fresh, column, c :: rest =>
    let mayFold := folds && !first && !rest.isEmpty
    let fold (next : Bool) : List Char := '\\' :: newLine indent ++ (if next then ['\\'] else [])
    match escapeOf? c with
    | some escape =>
      if mayFold && pageWidth + 1 < column + escape.length then
        let spaced := startsWith (· == ' ') rest
        escape ++ fold spaced
          ++ escapeRuns folds indent false true (if spaced then indent + 1 else indent) rest
      else escape ++ escapeRuns folds indent false true (column + escape.length) rest
    | none =>
      if mayFold && (c == ' ' || fresh) && pageWidth < column then
        let spaced := c == ' '
        fold spaced ++ c
          :: escapeRuns folds indent false false (if spaced then indent + 2 else indent + 1) rest
      else c :: escapeRuns folds indent false false (column + 1) rest

/-- Write a text from a column on. -/
def writeText (folds : Bool) (indent column : Nat) (s : String) : List Char :=
  let cs := s.toList
  if fitsPlain cs && Kind.ofPlain s == .text then foldRuns folds indent id true column (runsOf cs)
  else if fitsSingle cs && (folds || !cs.contains '\n') then
    '\'' :: foldRuns folds indent doubleQuotes true (column + 1) (runsOf cs) ++ ['\'']
  else '"' :: escapeRuns folds indent true true (column + 1) cs ++ ['"']

/-- The text of a number. A number that is written with an exponent has a point, too. -/
def writeNumber : Double → List Char
  | .nan => ".nan".toList
  | .infinite negative => if negative then "-.inf".toList else ".inf".toList
  | x =>
    let cs := x.write.toList
    if cs.contains '.' || !cs.contains 'e' then cs
    else cs.flatMap fun c => if c == 'e' then ".0e".toList else [c]

/-- Write a value without parts from a column on. Values that have no written form of their own are
written as texts. -/
def writeScalar (folds : Bool) (indent column : Nat) : Yaml → List Char
  | .null => "null".toList
  | .bool b => (if b then "true" else "false").toList
  | .integer n => (toString n).toList
  | .number x => writeNumber x
  | .text s => writeText folds indent column s
  | .list _ => "[]".toList
  | .map _ => ['\x7b', '\x7d']
  | .date d => d.text.toList
  | .moment m => m.text.toList
  | other => writeText folds indent column other.shown

/-- Whether a key is written in front of its value without a mark of its own: it is short, on one
line and not empty. -/
def isSimpleKey (key : String) : Bool :=
  !key.isEmpty && key.length < 123 && !key.toList.any isBreak

/-- Pieces of text on lines of their own. -/
def joinLines (indent : Nat) : List (List Char) → List Char
  | [] => []
  | [piece] => piece
  | piece :: rest => piece ++ newLine indent ++ joinLines indent rest

/-- The number that a key stands for, if it is one. -/
def keyNumber? : Yaml → Option Rat
  | .bool b => some (if b then 1 else 0)
  | .integer n => some (n : Rat)
  | .number x => x.value?
  | _ => none

/-- Whether a key is a text. -/
def isTextKey : Yaml → Bool
  | .text _ => true
  | _ => false

/-- Entries in the order of their keys. Texts have an order, and so have numbers; keys of several
kinds stay as they are. -/
def inKeyOrder (entries : List (Yaml × List Char)) : List (List Char) :=
  let before (a b : Yaml × List Char) : Bool :=
    match keyNumber? a.1, keyNumber? b.1 with
    | some m, some n => m ≤ n
    | _, _ => keyText a.1 ≤ keyText b.1
  let ordered := (entries.all fun (key, _) => isTextKey key)
    || (entries.all fun (key, _) => (keyNumber? key).isSome)
  (if ordered then entries.mergeSort before else entries).map (·.2)

mutual

/-- Write a value that starts at a column, at which also its further lines start if it is
nested. -/
def writeAt (column : Nat) : Yaml → List Char
  | .list (item :: items) => joinLines column (writeItems column (item :: items))
  | .map (entry :: entries) =>
    joinLines column (inKeyOrder (writeEntries column (entry :: entries)))
  | value => writeScalar true column column value

/-- The items of a list whose dashes stand at a column. -/
def writeItems (column : Nat) : List Yaml → List (List Char)
  | [] => []
  | item :: rest => ('-' :: ' ' :: writeAt (column + indentStep) item) :: writeItems column rest

/-- The value of a key that starts at a column. The dashes of a list stand below the key. -/
def writeBelow (column after : Nat) : Yaml → List Char
  | .list (item :: items) =>
    newLine column ++ joinLines column (writeItems column (item :: items))
  | .map (entry :: entries) =>
    let deeper := column + indentStep
    newLine deeper ++ joinLines deeper (inKeyOrder (writeEntries deeper (entry :: entries)))
  | value => ' ' :: writeScalar true (column + indentStep) (after + 1) value

/-- The entries of a mapping whose keys stand at a column, each with its key. A key that is not
simple gets a mark of its own, and its value one on the next line. -/
def writeEntries (column : Nat) : List (Yaml × Yaml) → List (Yaml × List Char)
  | [] => []
  | (key, value) :: rest =>
    let name := keyText key
    let deeper := column + indentStep
    let written :=
      if isSimpleKey name then
        let shown := writeScalar false deeper column key
        shown ++ ':' :: writeBelow column (column + shown.length + 1) value
      else
        '?' :: ' ' :: writeScalar true deeper deeper key ++ newLine column ++ ':' :: ' '
          :: writeAt deeper value
    (key, written) :: writeEntries column rest

end

/-- The text of a mapping, as a document. -/
def writeMapping (entries : List (Yaml × Yaml)) : String :=
  String.ofList (writeAt 0 (.map entries) ++ ['\n'])

end PodReach.Yaml
