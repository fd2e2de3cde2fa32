import MixedScript.Text.Word

/-!
# Host lines

In a host line, `$?` names the last exit status, held in the variable `RC`, and `$` followed by
decimal digits of any script names a script argument.
-/

namespace MixedScript.Target

open MixedScript.Text

/-- The host variable that holds the last exit status. -/
def rcName : String := "RC"

/-- Replaces every `$?`, left to right, by `RC`. -/
def rewriteStatusRefs : List Char → List Char
  | '$' :: '?' :: rest => rcName.toList ++ rewriteStatusRefs rest
  | c :: rest => c :: rewriteStatusRefs rest
  | [] => []

/-- Replaces every `$` followed by decimal digits by the matching item of `sys.argv`. -/
def rewriteArgRefs : List Char → List Char
  | '$' :: c :: rest =>
    if isDecimalDigit c then
      let digits := rest.takeWhile isDecimalDigit
      "sys.argv[".toList ++ c :: digits ++ ']' :: rewriteArgRefs (rest.drop digits.length)
    else '$' :: rewriteArgRefs (c :: rest)
  | c :: rest => c :: rewriteArgRefs rest
  | [] => []
termination_by cs => cs.length
decreasing_by
  all_goals
    simp only [List.length_cons, List.length_drop]
    omega

/-- A host line with its status and argument references rewritten. -/
def rewriteHost (line : String) : String :=
  String.ofList (rewriteArgRefs (rewriteStatusRefs line.toList))

end MixedScript.Target
