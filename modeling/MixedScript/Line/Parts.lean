import MixedScript.Text.Blank

/-!
# The parts of a statement

A statement splits into parts at blanks, dots and colons. A bracketed group, up to the closer
that balances its opener, is one part, and so is a quoted string; inside either, a backslash
escapes the next character of a string. The classifier looks at the first two parts.
-/

namespace MixedScript.Line

open MixedScript.Text

/-- A blank, a dot or a colon ends a word. -/
def isSeparator (c : Char) : Bool :=
  isBlank c || c == '.' || c == ':'

/-- An opening bracket. -/
def isOpener (c : Char) : Bool :=
  c == '(' || c == '[' || c == '{'

/-- A closing bracket. -/
def isCloser (c : Char) : Bool :=
  c == ')' || c == ']' || c == '}'

/-- A single or double quote. -/
def isQuote (c : Char) : Bool :=
  c == '"' || c == '\''

/-- Where the splitter is; each part under way keeps its characters so far, last first. -/
inductive PartState where
  | between
  | word (acc : List Char)
  | group (acc : List Char) (depth : Nat) (quote : Option Char)
  | quoted (acc : List Char) (quote : Char)

/-- What a character starts when no part is under way, or after a word ended. -/
def PartState.start (ch : Char) : PartState :=
  if isSeparator ch then .between
  else if isOpener ch then .group [ch] 1 none
  else if isQuote ch then .quoted [ch] ch
  else .word [ch]

/-- Splits the rest of a line, in state `st`; `esc` says the previous character was an
unescaped backslash inside a string. -/
def splitFrom : PartState → Bool → List Char → List (List Char)
  | .between, _, [] => []
  | .word acc, _, [] => [acc.reverse]
  | .group acc _ _, _, [] => [acc.reverse]
  | .quoted acc _, _, [] => [acc.reverse]
  | .between, _, ch :: rest => splitFrom (PartState.start ch) false rest
  | .word acc, _, ch :: rest =>
    if isSeparator ch || isOpener ch || isQuote ch then
      acc.reverse :: splitFrom (PartState.start ch) false rest
    else splitFrom (.word (ch :: acc)) false rest
  | .group acc depth (some q), esc, ch :: rest =>
    if ch == '\\' && !esc then splitFrom (.group (ch :: acc) depth (some q)) true rest
    else if ch == q && !esc then splitFrom (.group (ch :: acc) depth none) false rest
    else splitFrom (.group (ch :: acc) depth (some q)) false rest
  | .group acc depth none, _, ch :: rest =>
    if isQuote ch then splitFrom (.group (ch :: acc) depth (some ch)) false rest
    else if isOpener ch then splitFrom (.group (ch :: acc) (depth + 1) none) false rest
    else if isCloser ch then
      if depth == 1 then (ch :: acc).reverse :: splitFrom .between false rest
      else splitFrom (.group (ch :: acc) (depth - 1) none) false rest
    else splitFrom (.group (ch :: acc) depth none) false rest
  | .quoted acc q, esc, ch :: rest =>
    if ch == '\\' && !esc then splitFrom (.quoted (ch :: acc) q) true rest
    else if ch == q && !esc then (ch :: acc).reverse :: splitFrom .between false rest
    else splitFrom (.quoted (ch :: acc) q) false rest

/-- The parts of a line, left to right. -/
def splitParts (line : List Char) : List (List Char) :=
  splitFrom .between false line

@[simp] theorem splitParts_nil : splitParts [] = [] := rfl

example : splitParts "print(x).y z".toList = ["print".toList, "(x)".toList, "y".toList, "z".toList] := by
  decide

end MixedScript.Line
