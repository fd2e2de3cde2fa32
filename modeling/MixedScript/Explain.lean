import MixedScript.Layout.Scan
import MixedScript.Line.Classify

/-!
# Explaining a classification

The explanation lists each statement under the label of its class, padded to seven columns,
then ` | ` and the statement. In colour, the label and the text take the colour of the class,
and on a blended statement the host text is green and each substitution blue. A substitution
that never closes runs to the end of its statement; spans that start past the statement, or
overlap one already shown, are left out. Soft breaks become newlines in the finished text.
-/

namespace MixedScript

open MixedScript.Layout MixedScript.Text

/-- Plain text, or text with 256-colour terminal escapes. -/
inductive Style where
  | plain
  | ansi
deriving DecidableEq, Repr

namespace Style

/-- Text in a colour of the 256-colour palette: the escape that sets the foreground, the text,
and the escape that resets it. An empty text is painted too. -/
def paint (st : Style) (colour : Nat) (text : String) : String :=
  match st with
  | .plain => text
  | .ansi => "\x1b[38;5;" ++ toString colour ++ "m" ++ text ++ "\x1b[39m"

end Style

namespace Explain

/-- Pads a label with spaces to seven characters. -/
def padLabel (s : String) : String :=
  s ++ String.ofList (List.replicate (7 - s.length) ' ')

/-- The text of a blended statement: host pieces in the host colour, substitutions in the
shell colour. -/
def blendedText (st : Style) (line : List Char) (spans : List Span) : String :=
  go 0 spans
where
  go (pos : Nat) : List Span → String
    | [] => st.paint LineClass.host.colour (String.ofList (line.drop pos))
    | sp :: more =>
      match columnToIndex line sp.start with
      | none => go pos more
      | some start =>
        let stop := (sp.stop.bind (columnToIndex line)).getD line.length
        if start < pos || stop < start then go pos more
        else
          st.paint LineClass.host.colour (String.ofList ((line.drop pos).take (start - pos))) ++
            st.paint LineClass.shell.colour (String.ofList ((line.drop start).take (stop - start))) ++
            go stop more

/-- One row of the explanation, with its newline. -/
def row (st : Style) (spans : List Span) (idx : Nat) (line : String) (c : LineClass) : String :=
  let text := match c with
    | .blended => blendedText st line.toList (Layout.spansOn spans idx)
    | _ => st.paint c.colour line
  st.paint c.colour (padLabel c.label) ++ " | " ++ text ++ "\n"

/-- The rows from statement `i` on. -/
def rowsFrom (st : Style) (spans : List Span) : Nat → List String → List LineClass → String
  | i, l :: ls, c :: cs => row st spans i l c ++ rowsFrom st spans (i + 1) ls cs
  | _, _, _ => ""

end Explain

/-- The explanation of classified statements. -/
def explain (lines : List String) (classes : List LineClass) (spans : List Span) (st : Style) :
    String :=
  restore (Explain.rowsFrom st spans 0 lines classes)

/-- The explanation of a script: laid out and classified, with no directive expanded. -/
def explainSource (src : String) (st : Style) : String :=
  let l := Layout.ofSource src
  let (classes, _) := Line.classifyAll l.lines l.spans (Scope.ofSource src)
  explain l.lines classes l.spans st

end MixedScript
