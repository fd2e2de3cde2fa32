import MixedScript.Error
import MixedScript.Layout.Scan
import MixedScript.Line.Class
import MixedScript.Target.HostText
import MixedScript.Target.ShellText
import MixedScript.Text.Base64

/-!
# Statements of the generated program

A shell statement becomes a call of the runtime's `shell` with the command in base64. In a
blended statement each inline substitution is replaced by such a call, from the rightmost start
to the leftmost.
-/

namespace MixedScript.Target

open MixedScript.Text MixedScript.Layout

/-- The runtime call that runs an encoded command, with extra keyword arguments. -/
def shellCall (command : String) (extra : String) : String :=
  "shell(\"" ++ base64 (shellCommand command) ++ "\", " ++ extra ++ "format_dict=locals())"

/-- A shell statement, indentation kept. -/
def shellStatement (line : String) : String :=
  let cs := line.toList
  let cmd := trimStart cs
  String.ofList (cs.take (cs.length - cmd.length)) ++ shellCall (String.ofList cmd) ""

/-- The keywords after which a substitution yields the exit status. -/
def conditionKeywords : List String :=
  ["if", "elif", "while"]

/-- The call that replaces an inline substitution. -/
def substitutionCall (inner : String) (wantsStatus silent : Bool) :
    String :=
  shellCall inner ((if wantsStatus then "get_rc" else "get_stdout") ++ "=True, silent=" ++
    (if silent then "True" else "False") ++ ", ")

/-- Replaces one substitution of statement `idx` (counted from zero) in the text so far. -/
def replaceSpan (idx : Nat) (line : List Char) (out : List Char) (sp : Span) :
    Except CompileError (List Char) := do
  let some stopCol := sp.stop | throw (.unterminated (idx + 1) sp.start)
  let some start := columnToByte (String.ofList line) sp.start | throw (.missing (idx + 1))
  let some stop := columnToByte (String.ofList line) stopCol | throw (.missing (idx + 1))
  if stop < start + 3 then throw (.missing (idx + 1))
  let some inner := byteSlice line (start + 2) (stop - 1) | throw .splitsCharacter
  let before := (byteSlice line 0 start).getD []
  let wantsStatus := (words before).any fun w => conditionKeywords.contains (String.ofList w)
  let call := substitutionCall (String.ofList inner) wantsStatus sp.kind.silent
  let some out := byteReplace out start stop call.toList | throw .splitsCharacter
  pure out

/-- A blended statement with every substitution on it replaced, rightmost start first. -/
def rewriteBlended (idx : Nat) (line : String) (spans : List Span) :
    Except CompileError String := do
  if spans.isEmpty then throw (.missing (idx + 1))
  let ordered := spans.mergeSort fun a b => b.start ≤ a.start
  let out ← ordered.foldlM (replaceSpan idx line.toList) line.toList
  pure (String.ofList out)

/-- The generated text of statement `idx` of a given class. -/
def emitLine (spans : List Span) (idx : Nat) (line : String) : LineClass →
    Except CompileError String
  | .comment => pure line
  | .host => pure (rewriteHost line)
  | .shell => pure (shellStatement line)
  | .blended => rewriteBlended idx line (Layout.spansOn spans idx)
  | .directive =>
    pure (if "source(".toList.isPrefixOf (trimStart line.toList) then line else shellStatement line)

end MixedScript.Target
