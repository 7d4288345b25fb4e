import PodReach.Text.Digit
import PodReach.Text.Printable
import PodReach.Text.Surrogate

/-!
# Quoted texts in log lines

A text is quoted with single quotes, unless it holds a single quote and no double quote.
The backslash and the chosen quote are escaped, the three usual controls have short
escapes, and every other unprintable character is written by its code point.
-/

namespace PodReach.Text

/-- The quote that a text is written with. -/
def quoteFor (cs : List Char) : Char :=
  if cs.contains '\'' && !cs.contains '"' then '"' else '\''

/-- One character of a quoted text. -/
def quotedChar (quote c : Char) : List Char :=
  if c == quote || c == '\\' then ['\\', c]
  else if c == '\n' then ['\\', 'n']
  else if c == '\r' then ['\\', 'r']
  else if c == '\t' then ['\\', 't']
  else if isPrintable c then [c]
  else
    let code := unitOfChar c
    if code < 0x100 then '\\' :: 'x' :: hexDigits 2 code
    else if code < 0x10000 then '\\' :: 'u' :: hexDigits 4 code
    else '\\' :: 'U' :: hexDigits 8 code

/-- A text between quotes, with everything in it visible. -/
def quoted (s : String) : String :=
  let quote := quoteFor s.toList
  String.ofList (quote :: s.toList.flatMap (quotedChar quote) ++ [quote])

/-- A list of texts, each quoted, between square brackets. -/
def quotedList (texts : List String) : String :=
  "[" ++ ", ".intercalate (texts.map quoted) ++ "]"

example : quoted "hi" = "'hi'" := by decide +kernel
example : quoted "echo 'hi'" = "\"echo 'hi'\"" := by decide +kernel

end PodReach.Text
