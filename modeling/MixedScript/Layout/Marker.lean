import MixedScript.Text.Blank
import MixedScript.Text.Utf8

/-!
# The soft-break marker

A newline inside brackets, inside a double-quoted string or after a backslash does not end a
statement. The layout replaces each such newline by a marker of private-use characters, so
that splitting at the remaining newlines yields whole statements. The marker counts as one
column; `columnToByte` turns such a column into a byte offset of the line's UTF-8 text.
-/

namespace MixedScript.Layout

open MixedScript.Text

/-- The marker: U+E000, the letters of CALLIGRAPHY_NEWLINE, U+E001. -/
def marker : String := "\uE000CALLIGRAPHY_NEWLINE\uE001"

/-- The marker's characters. -/
def markerChars : List Char := marker.toList

theorem markerChars_length : markerChars.length = 21 := by decide

/-- The marker's size in UTF-8 bytes. -/
def markerBytes : Nat := marker.utf8ByteSize

/-- Replaces every marker, scanning left to right, by a newline. -/
def unfoldChars : List Char → List Char
  | [] => []
  | c :: rest =>
    if markerChars.isPrefixOf (c :: rest) then '\n' :: unfoldChars (rest.drop 20)
    else c :: unfoldChars rest
termination_by cs => cs.length
decreasing_by
  all_goals
    simp only [List.length_cons, List.length_drop]
    omega

theorem unfoldChars_nil : unfoldChars [] = [] := by
  rw [unfoldChars]

/-- The text with every soft break turned back into a newline. -/
def restore (text : String) : String :=
  String.ofList (unfoldChars text.toList)

/-- A line is blank when all its characters are blank. -/
def isBlankLine (cs : List Char) : Bool :=
  cs.all isBlank

/-- The statements of a laid-out text: its newline-separated lines that are not blank. -/
def logicalLines (text : String) : List String :=
  ((text.toList.splitOn '\n').filter fun l => !isBlankLine l).map String.ofList

/-- The first `col` columns of a line and the rest, where a marker is one column and every other
character one column; `none` when the line has fewer columns. -/
def splitAtColumn : List Char → Nat → Option (List Char × List Char)
  | cs, 0 => some ([], cs)
  | cs, col + 1 =>
    if markerChars.isPrefixOf cs then
      (splitAtColumn (cs.drop 21) col).map fun p => (markerChars ++ p.1, p.2)
    else
      match cs with
      | [] => none
      | c :: rest => (splitAtColumn rest col).map fun p => (c :: p.1, p.2)

/-- The byte offset of a column of a line. -/
def columnToByte (line : String) (col : Nat) : Option Nat :=
  (splitAtColumn line.toList col).map fun p => byteLength p.1

/-- The character index of a column of a line. -/
def columnToIndex (line : List Char) (col : Nat) : Option Nat :=
  (splitAtColumn line col).map fun p => p.1.length

@[simp] theorem splitAtColumn_zero (cs : List Char) : splitAtColumn cs 0 = some ([], cs) := by
  cases cs <;> rfl

theorem markerBytes_eq : markerBytes = 25 := by decide

end MixedScript.Layout
