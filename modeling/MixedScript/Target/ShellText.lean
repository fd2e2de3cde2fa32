import MixedScript.Layout.Marker
import MixedScript.Text.Word

/-!
# Shell command text

Before a shell command is encoded, `env.NAME` becomes the shell expansion `${NAME}` wherever it
does not continue a word, a dotted name or a path, and the exit-status reference `$?` becomes
`${CALLIGRAPHY_RC}` unless a backslash escapes it or it stands in single quotes. Last, soft
breaks become newlines again.
-/

namespace MixedScript.Target

open MixedScript.Text MixedScript.Layout

/-- The variable through which the runtime passes the last exit status to the shell. -/
def rcVariable : String := "CALLIGRAPHY_RC"

/-- The name after `env.` at the head of a text, when there is one. -/
def envNameAt (cs : List Char) : Option (List Char) :=
  if "env.".toList.isPrefixOf cs then
    let name := (cs.drop 4).takeWhile isWordChar
    if name.isEmpty then none else some name
  else none

/-- The expansion that stands for a variable. -/
def expansion (name : List Char) : List Char :=
  '$' :: '{' :: name ++ ['}']

/-- Rewrites `env.NAME` where the character before it is not a word character, a dot or a
slash; `env.NAME` at the very start always counts. -/
def rewriteEnvRefs (cs : List Char) : List Char :=
  match envNameAt cs with
  | some name => expansion name ++ rewriteEnvAfter (cs.drop (4 + name.length))
  | none => rewriteEnvAfter cs
where
  /-- The same, away from the start of the text. -/
  rewriteEnvAfter : List Char → List Char
    | [] => []
    | c :: rest =>
      if isWordChar c || c == '.' || c == '/' then c :: rewriteEnvAfter rest
      else
        match envNameAt rest with
        | some name => c :: (expansion name ++ rewriteEnvAfter (rest.drop (4 + name.length)))
        | none => c :: rewriteEnvAfter rest
  termination_by cs => cs.length
  decreasing_by
    all_goals
      simp only [List.length_cons, List.length_drop]
      omega

/-- Where a shell reader is: outside quotes, or inside single or double quotes. -/
inductive Quoting where
  | unquoted
  | single
  | double
deriving DecidableEq, Repr

/-- Rewrites `$?` outside single quotes when no backslash escapes its `$`; `esc` says the
previous character was such a backslash. -/
def rewriteStatus : Quoting → Bool → List Char → List Char
  | _, _, [] => []
  | .single, _, c :: rest =>
    c :: rewriteStatus (if c == '\'' then .unquoted else .single) false rest
  | q, esc, c :: rest =>
    if c == '\\' && !esc then c :: rewriteStatus q true rest
    else if q == .unquoted && c == '\'' && !esc then c :: rewriteStatus .single false rest
    else if q == .unquoted && c == '"' && !esc then c :: rewriteStatus .double false rest
    else if q == .double && c == '"' && !esc then c :: rewriteStatus .unquoted false rest
    else if c == '$' && !esc && rest.head? == some '?' then
      expansion rcVariable.toList ++ rewriteStatus q false (rest.drop 1)
    else c :: rewriteStatus q false rest
termination_by _ _ cs => cs.length
decreasing_by
  all_goals
    simp only [List.length_cons, List.length_drop]
    omega

/-- The shell command that runs for a command text. -/
def shellCommand (text : String) : String :=
  String.ofList (unfoldChars (rewriteStatus .unquoted false (rewriteEnvRefs text.toList)))

end MixedScript.Target
