/-!
# Blank characters and the texts between them

The whitespace class used for trimming and for cutting a line into words. It is the
bidirectional class WS/B/S together with the space separators, so it also holds the
four information separators U+001C to U+001F and the next-line control U+0085, which
`Char.isWhitespace` does not know.

Numerals are padded by a slightly smaller class: the information separators do not
count as padding around a number.
-/

namespace PodReach.Text

/-- The white characters: controls, separators and the Unicode space separators. -/
def isBlank (c : Char) : Bool :=
  let n := c.toNat
  (9 ≤ n && n ≤ 13) || (28 ≤ n && n ≤ 32) || n == 0x85 || n == 0xA0 || n == 0x1680
    || (0x2000 ≤ n && n ≤ 0x200A) || n == 0x2028 || n == 0x2029 || n == 0x202F
    || n == 0x205F || n == 0x3000

/-- The white characters that may stand around a numeral. -/
def isNumeralPadding (c : Char) : Bool :=
  isBlank c && !(28 ≤ c.toNat && c.toNat ≤ 31)

/-- Drop the characters of a class from both ends. -/
def trimBoth (p : Char → Bool) (cs : List Char) : List Char :=
  ((cs.dropWhile p).reverse.dropWhile p).reverse

/-- A text without its leading and trailing blanks. -/
def strip (s : String) : String :=
  String.ofList (trimBoth isBlank s.toList)

/-- The words of a character list: maximal runs of characters that are not blank. The
accumulator holds the word being read, in reverse. -/
def wordsFrom : List Char → List Char → List (List Char)
  | word, [] => if word.isEmpty then [] else [word.reverse]
  | word, c :: rest =>
    if isBlank c then
      if word.isEmpty then wordsFrom [] rest else word.reverse :: wordsFrom [] rest
    else wordsFrom (c :: word) rest

/-- The words of a text, in order; a text of blanks has none. -/
def words (s : String) : List String :=
  (wordsFrom [] s.toList).map String.ofList

/-- Split at every occurrence of one character, keeping empty pieces. The result is never
empty, and joining it with the separator gives the list back. -/
def splitOnChar (sep : Char) : List Char → List (List Char)
  | [] => [[]]
  | c :: rest =>
    if c == sep then [] :: splitOnChar sep rest
    else match splitOnChar sep rest with
      | [] => [[c]]
      | piece :: pieces => (c :: piece) :: pieces

/-- The pieces of a text between the occurrences of a character. -/
def split (sep : Char) (s : String) : List String :=
  (splitOnChar sep s.toList).map String.ofList

/-- The parts before and after the first occurrence of a character, if there is one. -/
def cutAtFirst (sep : Char) : List Char → Option (List Char × List Char)
  | [] => none
  | c :: rest =>
    if c == sep then some ([], rest)
    else (cutAtFirst sep rest).map fun (before, after) => (c :: before, after)

/-- Whether a text occurs inside another, as a run of consecutive characters. -/
def occursIn (needle : List Char) : List Char → Bool
  | [] => needle.isEmpty
  | c :: rest => needle.isPrefixOf (c :: rest) || occursIn needle rest

/-- Whether `part` occurs in `s`. -/
def contains (s part : String) : Bool :=
  occursIn part.toList s.toList

/-- The text shown for a name that may be missing. -/
def orNone : Option String → String
  | some s => s
  | none => "None"

/-- A missing or empty text counts as absent. -/
def nonempty : Option String → Option String
  | some s => if s.isEmpty then none else some s
  | none => none

end PodReach.Text
